import TopicClient.Scenario.World

/-!
# Turns

What a client does without script and without time passing. The job at the head of
the queue has its turn until it has nothing more to do. When no job is left, the
client looks for what is on its way to it, then for timers that are due, and so the
next jobs come into the queue.
-/

namespace TopicClient.Scenario.World

def meet (w : World) : Occurrence Tag → World
  | .event e => w.step (.socket e)
  | .payload text => w.step (.payload text)

/-- The end of a post, once its answer has been read. -/
def outcome? (key : Nat) (w : World) : Option World :=
  (Assoc.find? key w.outcomes).map fun result =>
    { w with outcomes := Assoc.erase key w.outcomes }.step (.outcome key result)

/-- A call heeds the end of its post first, then its answer, then its deadline. -/
def callNext? (number : Nat) (w : World) : Option World := do
  let call ← Assoc.find? number w.client.calls
  (call.post.bind fun key => w.outcome? key) <|>
    if (w.client.result? call).isSome then some (w.step (.collect number))
    else if call.deadline.any (· ≤ w.fired) then some (w.step (.expire number))
    else none

/-- The next thing that a task does, if it has anything to do. -/
def taskNext? (w : World) : Task → Option World
  | .outbox =>
    if w.client.isClosed || w.client.core.outbox.isEmpty then none else some (w.step .pump)
  | .statuses =>
    if w.client.isClosed || w.client.statuses.isEmpty then none else some (w.step .look)
  | .socket => w.socketNext?.map fun (o, line, server) => { w with line, server }.meet o
  | .retry => if w.client.retries.any (· ≤ w.fired) then some (w.step .retry) else none
  | .call number => w.callNext? number
  | .post key => w.outcome? key

/-- Reads an answer. The last part concludes the post; each part before it only wakes
who waits. A post that was withdrawn has nobody to conclude it for. -/
def read (r : Reply) (w : World) : World :=
  if (Assoc.find? r.key w.client.posts).isNone then w
  else if r.parts ≤ 1 then w.conclude r.key r.outcome
  else
    let w := w.wake (w.owner r.key)
    { w with ready := w.ready ++ [.read { r with parts := r.parts - 1 }] }

/-- The turn of a job, with the jobs that wait behind it. -/
def turn (w : World) (job : Job) (rest : List Job) : World :=
  match job with
  | .begin name call =>
    let callers := name.toList.map fun name => (w.client.lastCall + 1, name)
    { w with ready := rest, callers := w.callers ++ callers }.step call
  | .read r => { w with ready := rest }.read r
  | .task t => (w.taskNext? t).getD { w with ready := rest }

/-- The timers of the client, each with the task that heeds it. -/
def timers (w : World) : List (Nat × Task) :=
  let socket :=
    match w.client.socket with
    | some socket => socket.timers.map fun e => (e.1, .socket)
    | none => []
  let calls := w.client.calls.filterMap fun (number, call) =>
    call.deadline.map fun deadline => (deadline, .call number)
  socket ++ w.client.retries.map (fun deadline => (deadline, .retry)) ++ calls

/-- The tasks whose timers are due, in the order of their deadlines. -/
def due (w : World) : List Task :=
  ((w.timers.filter (·.1 ≤ w.now)).mergeSort fun a b => a.1 ≤ b.1).map Prod.snd

def receive (w : World) : Traffic → World
  | .arrival a => { w with line := w.line ++ [a] }.wake .socket
  | .reply r => { w with ready := w.ready ++ [.read r] }

/-- Looks for traffic and for timers. -/
def look (w : World) : World :=
  let v := w.traffic.foldl receive { w with traffic := [], fired := w.now }
  w.due.foldl (fun v t => v.wake t) v

/-- The next thing that happens, if anything does. -/
def next? (w : World) : Option World :=
  match w.ready with
  | job :: rest => some (w.turn job rest)
  | [] => if w.traffic.isEmpty && w.due.isEmpty then none else some w.look

def settle (fuel : Nat) (w : World) : World :=
  match fuel, w.next? with
  | fuel + 1, some w => w.settle fuel
  | _, _ => w

end TopicClient.Scenario.World
