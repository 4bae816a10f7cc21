import TopicClient.Client.Step
import TopicClient.Proofs.CallLives
import TopicClient.Proofs.Histories

/-!
# The desk in the steps of a client

Whatever a client does is, at its desk, a few deeds one after another. The responses that
are dispatched, the requests that are made and the calls that are answered or return are
those of the deeds, in the same order.
-/

namespace TopicClient

namespace ClientEffect

def answered? : ClientEffect → Option Nat
  | answered n => some n
  | _ => none

def returned? : ClientEffect → Option (Nat × Except ClientError Json)
  | returned n result => some (n, result)
  | _ => none

end ClientEffect

/-- The calls that got their answers, as the client tells it. -/
def answersIn (effects : List ClientEffect) : List Nat :=
  effects.filterMap ClientEffect.answered?

/-- The calls that returned, as the client tells it. -/
def returnsIn (effects : List ClientEffect) : List (Nat × Except ClientError Json) :=
  effects.filterMap ClientEffect.returned?

theorem answersIn_append (first last : List ClientEffect) :
    answersIn (first ++ last) = answersIn first ++ answersIn last :=
  List.filterMap_append

theorem returnsIn_append (first last : List ClientEffect) :
    returnsIn (first ++ last) = returnsIn first ++ returnsIn last :=
  List.filterMap_append

/-- Effects that tell nothing of calls. -/
def Mute (effects : List ClientEffect) : Prop :=
  answersIn effects = [] ∧ returnsIn effects = []

theorem Mute.append {first last : List ClientEffect} (h : Mute first) (h' : Mute last) :
    Mute (first ++ last) := by
  rw [Mute, answersIn_append, returnsIn_append, h.1, h.2, h'.1, h'.2]
  exact ⟨rfl, rfl⟩

theorem mute_records (records : List Json) :
    Mute (records.map (ClientEffect.recorded .error)) := by
  constructor
  · simp [answersIn, List.filterMap_map, Function.comp_def, ClientEffect.answered?]
  · simp [returnsIn, List.filterMap_map, Function.comp_def, ClientEffect.returned?]

theorem answersIn_map (calls : List Nat) : answersIn (calls.map ClientEffect.answered) = calls := by
  simp [answersIn, List.filterMap_map, Function.comp_def, ClientEffect.answered?]

theorem returnsIn_map (calls : List Nat) : returnsIn (calls.map ClientEffect.answered) = [] := by
  simp [returnsIn, List.filterMap_map, Function.comp_def, ClientEffect.returned?]

namespace Client
variable {H W : Type}

/-- What is at the desk of a client. -/
def desk (c : Client H W) : Desk where
  correlator := c.core.correlator
  closed := c.core.closed
  calls := c.calls.map fun e => (e.1, e.2.id)
  last := c.lastCall

/-- From the desk `k` on the client has come here through deeds in which these responses
come in and these requests are made, and it tells of the calls what the deeds say. -/
def Works (k : Desk) (ms : List Message) (requests : List (Nat × UInt64)) (r : Step H W) : Prop :=
  ∃ ds, Deeds k ds r.1.desk ∧ Desk.heard ds = ms ∧ Desk.issues ds = requests ∧
    answersIn r.2 = Desk.answered ds ∧ returnsIn r.2 = Desk.returned ds

namespace Works

theorem still {k : Desk} {r : Step H W} (h : r.1.desk = k) (mute : Mute r.2) : Works k [] [] r := by
  refine ⟨[], ?_, rfl, rfl, mute.1, mute.2⟩
  rw [h]
  exact .nil k

theorem andThen {k : Desk} {ms ms' : List Message} {requests requests' : List (Nat × UInt64)}
    {r : Step H W} {f : Client H W → Step H W} (h : Works k ms requests r)
    (h' : Works r.1.desk ms' requests' (f r.1)) :
    Works k (ms ++ ms') (requests ++ requests') (r.andThen f) := by
  obtain ⟨ds, hds, rfl, rfl, hanswered, hreturned⟩ := h
  obtain ⟨es, hes, rfl, rfl, hanswered', hreturned'⟩ := h'
  refine ⟨ds ++ es, hds.trans hes, Desk.heard_append ds es, Desk.issues_append ds es, ?_, ?_⟩
  · simp only [Step.andThen, answersIn_append, hanswered, hanswered', Desk.answered_append]
  · simp only [Step.andThen, returnsIn_append, hreturned, hreturned', Desk.returned_append]

/-- Nothing comes in after the first step. -/
theorem andStill {k : Desk} {ms : List Message} {requests : List (Nat × UInt64)}
    {r : Step H W} {f : Client H W → Step H W} (h : Works k ms requests r)
    (h' : Works r.1.desk [] [] (f r.1)) : Works k ms requests (r.andThen f) := by
  have hboth := h.andThen h'
  rwa [List.append_nil, List.append_nil] at hboth

/-- A request was made before. -/
theorem issued {k l : Desk} {n : Nat} {id : UInt64} (does : Deed.Does k (.issued n id) l)
    {ms : List Message} {requests : List (Nat × UInt64)} {r : Step H W}
    (h : Works l ms requests r) :
    Works k ms ((n, id) :: requests) r := by
  obtain ⟨ds, hds, hheard, hissues, hanswered, hreturned⟩ := h
  refine ⟨.issued n id :: ds, .cons does hds, hheard, ?_, hanswered, hreturned⟩
  rw [← hissues]
  rfl

/-- Another call was made before. -/
theorem begun {k l : Desk} {n : Nat} (does : Deed.Does k (.begun n) l)
    {ms : List Message} {requests : List (Nat × UInt64)} {r : Step H W}
    (h : Works l ms requests r) :
    Works k ms requests r := by
  obtain ⟨ds, hds, hheard, hissues, hanswered, hreturned⟩ := h
  exact ⟨.begun n :: ds, .cons does hds, hheard, hissues, hanswered, hreturned⟩

end Works

/-! ## Calls -/

theorem desk_updateCall (c : Client H W) (number : Nat) {f : PendingCall → PendingCall}
    (hf : ∀ call, (f call).id = call.id) : (c.updateCall number f).desk = c.desk := by
  have hcalls := Assoc.map_modify hf number c.calls
  simp only [desk, updateCall, hcalls]

theorem desk_markSent (c : Client H W) (number : Nat) : (c.markSent number).desk = c.desk :=
  desk_updateCall c number fun _ => rfl

theorem desk_withdraw (call : PendingCall) (c : Client H W) :
    (c.withdraw call).1.desk = c.desk ∧ Mute (c.withdraw call).2 := by
  rw [withdraw]
  cases call.post with
  | none => exact ⟨rfl, rfl, rfl⟩
  | some key => exact ⟨rfl, rfl, rfl⟩

theorem mute_recordsOf (call : PendingCall) (result : Except ClientError Json) :
    Mute (recordsOf call result) := by
  cases result with
  | ok body => exact ⟨rfl, rfl⟩
  | error e =>
    rw [recordsOf]
    cases call.reportedAs with
    | none => exact ⟨rfl, rfl⟩
    | some uri => exact ⟨rfl, rfl⟩

theorem finish_of_find? {c : Client H W} {number : Nat} {call : PendingCall}
    (hfound : Assoc.find? number c.calls = some call) (result : Except ClientError Json) :
    c.finish number result =
      ((({ c with calls := Assoc.erase number c.calls }.withCorrelator fun k =>
        call.id.elim k k.abandon).withdraw call).andThen fun d =>
        (d, recordsOf call result ++ [ClientEffect.returned number result])) := by
  simp only [finish, hfound]
  cases call.id <;> rfl

/-- The client and the calls when a call has been taken off the desk. -/
theorem finish_eq {c : Client H W} {number : Nat} {call : PendingCall}
    (hfound : Assoc.find? number c.calls = some call) (result : Except ClientError Json) :
    (c.finish number result).1.desk =
      { c.desk with
        correlator := call.id.elim c.core.correlator c.core.correlator.abandon
        calls := Assoc.erase number c.desk.calls } ∧
    answersIn (c.finish number result).2 = [] ∧
    returnsIn (c.finish number result).2 = [(number, result)] := by
  let d : Client H W := { c with calls := Assoc.erase number c.calls }.withCorrelator fun k =>
    call.id.elim k k.abandon
  obtain ⟨hdesk, hmute⟩ := desk_withdraw call d
  have herased : d.desk =
      { c.desk with
        correlator := call.id.elim c.core.correlator c.core.correlator.abandon
        calls := Assoc.erase number c.desk.calls } := by
    simp only [d, desk, withCorrelator, Assoc.erase_map]
  have hrecords := hmute.append (mute_recordsOf call result)
  rw [finish_of_find? hfound]
  change (d.withdraw call).1.desk = _ ∧
    answersIn ((d.withdraw call).2 ++ (recordsOf call result ++ [.returned number result])) = _ ∧
    returnsIn ((d.withdraw call).2 ++ (recordsOf call result ++ [.returned number result])) = _
  rw [← List.append_assoc, answersIn_append, returnsIn_append, hrecords.1, hrecords.2]
  exact ⟨hdesk.trans herased, rfl, rfl⟩

theorem works_finish (c : Client H W) (number : Nat) {result : Except ClientError Json}
    (may : ∀ call, Assoc.find? number c.calls = some call → c.desk.MayReturn call.id result) :
    Works c.desk [] [] (c.finish number result) := by
  cases hfound : Assoc.find? number c.calls with
  | none =>
    rw [finish, hfound]
    exact .still rfl ⟨rfl, rfl⟩
  | some call =>
    have hcall : Assoc.find? number c.desk.calls = some call.id := by
      rw [desk, Assoc.find?_map, hfound]
      rfl
    obtain ⟨hdesk, hanswers, hreturns⟩ := finish_eq hfound result
    refine ⟨[.returned number result], ?_, rfl, rfl, hanswers, hreturns⟩
    rw [hdesk]
    exact .one (.finish hcall (may call hfound))

/-- A call may fail for a reason of its own at any moment. -/
theorem works_fail (c : Client H W) (number : Nat) {e : ClientError}
    (h : Unanswered (.error e)) : Works c.desk [] [] (c.finish number (.error e)) :=
  works_finish c number fun _ _ _ _ => .inl h

/-- A call that is looked at returns what its waiter has got, or that the client is closed. -/
theorem mayReturn_of_result? {c : Client H W} {call : PendingCall}
    {result : Except ClientError Json} (h : c.result? call = some result) :
    c.desk.MayReturn call.id result := by
  intro id hid
  rw [result?] at h
  cases hanswer : c.answer? call with
  | none =>
    left
    simp only [hanswer] at h
    change (if _ then some (.error .closed) else none) = some result at h
    split at h
    · obtain rfl := Option.some.inj h
      exact trivial
    · cases h
  | some answer =>
    right
    obtain rfl : answer = result := by simpa [hanswer] using h
    rw [answer?, hid] at hanswer
    split at hanswer
    · obtain ⟨got, hwaiter, hgot⟩ := Option.bind_eq_some_iff.mp hanswer
      change (c.core.correlator.waiter? id).map (Option.map Answer.result) = some (some answer)
      rw [hwaiter, Option.map_some, hgot]
    · cases hanswer

theorem works_collect (c : Client H W) (number : Nat) :
    Works c.desk [] [] (c.collect number) := by
  rw [collect]
  cases hresult : (Assoc.find? number c.calls).bind fun call => c.result? call with
  | none => exact .still rfl ⟨rfl, rfl⟩
  | some result =>
    refine works_finish c number ?_
    intro call hfound
    rw [hfound, Option.bind_some] at hresult
    exact mayReturn_of_result? hresult

theorem works_expire (c : Client H W) (now number : Nat) :
    Works c.desk [] [] (c.expire now number) := by
  rw [expire]
  split
  · split
    · exact works_fail c number trivial
    · exact .still rfl ⟨rfl, rfl⟩
  · exact .still rfl ⟨rfl, rfl⟩

/-! ## The socket -/

theorem works_onEffect (e : SocketEffect Tag) (c : Client H W) :
    Works c.desk [] [] (c.onEffect e) := by
  cases e with
  | settled tag fault =>
    cases tag with
    | none => exact .still rfl ⟨rfl, rfl⟩
    | some number =>
      cases fault with
      | none => exact .still (desk_markSent c number) ⟨rfl, rfl⟩
      | some error => exact works_fail c number trivial
  | dial | wrote | pinged | saidGoodbye | published => exact .still rfl ⟨rfl, rfl⟩

theorem works_forEach {α : Type} {f : α → Client H W → Step H W}
    (hf : ∀ a c, Works c.desk [] [] (f a c)) (as : List α) (c : Client H W) :
    Works c.desk [] [] (forEach f as c) := by
  induction as generalizing c with
  | nil => exact .still rfl ⟨rfl, rfl⟩
  | cons a as ih => exact (hf a c).andStill (ih _)

theorem works_onSocket (c : Client H W) (now : Nat) (e : SocketEvent Tag) :
    Works c.desk [] [] (c.onSocket now e) := by
  rw [onSocket]
  cases c.socket with
  | none => exact .still rfl ⟨rfl, rfl⟩
  | some socket =>
    exact works_forEach works_onEffect _ { c with socket := some (socket.step now e).1 }

/-! ## Making calls -/

theorem works_transmit (c : Client H W) (now number : Nat) (m : Message) :
    Works c.desk [] [] (c.transmit now number m) := by
  rw [transmit]
  cases c.supervisor.active with
  | socket => exact works_onSocket c now _
  | polling =>
    refine .still ?_ ⟨rfl, rfl⟩
    exact desk_updateCall c number fun _ => rfl

/-- The client that has taken down a request but has not sent it. -/
def asking (now : Nat) (uri : String) (payload : Json) (reported : Bool) (c : Client H W) :
    Client H W :=
  (c.withCorrelator fun k => (k.request uri payload).2.2).begin
    { id := some (c.core.correlator.lastId + 1)
      deadline := c.settings.requestTimeout?.map (now + ·)
      reportedAs := if reported then some uri else none }

theorem desk_asking (c : Client H W) (now : Nat) (uri : String) (payload : Json)
    (reported : Bool) :
    (c.asking now uri payload reported).desk =
      { c.desk with
        correlator := (c.desk.correlator.request uri payload).2.2
        calls := c.desk.calls ++ [(c.desk.last + 1, some (c.desk.correlator.lastId + 1))]
        last := c.desk.last + 1 } := by
  simp only [desk, asking, begin, withCorrelator, List.map_append]
  rfl

theorem does_asking {c : Client H W} (opened : c.isClosed = false) (now : Nat) (uri : String)
    (payload : Json) (reported : Bool) :
    Deed.Does c.desk (.issued (c.lastCall + 1) (c.core.correlator.lastId + 1))
      (c.asking now uri payload reported).desk := by
  rw [desk_asking]
  exact Deed.Does.issue (k := c.desk) opened uri payload

theorem request_eq {c : Client H W} (opened : c.isClosed = false) (now : Nat) (uri : String)
    (payload : Json) (reported : Bool) :
    c.request now uri payload reported =
      (c.asking now uri payload reported).transmit now (c.lastCall + 1)
        (.request uri (c.core.correlator.lastId + 1) payload) := by
  rw [request, if_neg (by rw [opened]; exact Bool.false_ne_true)]
  rfl

/-- A call without an id is no matter of the correlator. -/
theorem does_begin (c : Client H W) (reportedAs : Option String) :
    Deed.Does c.desk (.begun (c.lastCall + 1)) (c.begin { id := none, reportedAs }).desk := by
  have hdesk : (c.begin { id := none, reportedAs }).desk =
      { c.desk with
        calls := c.desk.calls ++ [(c.desk.last + 1, none)]
        last := c.desk.last + 1 } := by
    simp only [desk, begin, List.map_append]
    rfl
  rw [hdesk]
  exact .begin

/-- The request that an event makes, if the client is open: its number and its id. -/
def asks (c : Client H W) : ClientEvent H → List (Nat × UInt64)
  | .request _ _ _ =>
    if c.isClosed then [] else [(c.lastCall + 1, c.core.correlator.lastId + 1)]
  | _ => []

theorem works_request (c : Client H W) (now : Nat) (uri : String) (payload : Json)
    (reported : Bool) :
    Works c.desk [] (c.asks (.request uri payload reported))
      (c.request now uri payload reported) := by
  rw [asks]
  cases hclosed : c.isClosed with
  | true =>
    rw [request, if_pos hclosed]
    exact (works_fail (e := .closed) _ _ trivial).begun (does_begin c _)
  | false =>
    rw [request_eq hclosed]
    exact (works_transmit _ now _ _).issued (does_asking hclosed now uri payload reported)

theorem works_describe (c : Client H W) (now : Nat) (metadata : Metadata) :
    Works c.desk [] [] (c.describe now metadata) := by
  have hbegin := does_begin c none
  simp only [describe]
  split
  · exact (works_fail (e := .closed) _ _ trivial).begun hbegin
  · exact (works_transmit _ now _ _).begun hbegin

/-! ## Polls, posts and the outbox -/

theorem works_arm (c : Client H W) (cursors : Cursors) : Works c.desk [] [] (c.arm cursors) := by
  let d := c.withPolling fun _ => (c.supervisor.polling.arm cursors.entries).2
  have hpoll (cursor : String × Int64) (d : Client H W) : Works d.desk [] [] (d.poll cursor) :=
    .still rfl ⟨rfl, rfl⟩
  exact works_forEach hpoll _ d

theorem works_rearm (c : Client H W) : Works c.desk [] [] c.rearm := by
  rw [rearm]
  split
  · exact .still rfl ⟨rfl, rfl⟩
  · exact works_arm c _

theorem works_retry (c : Client H W) (now : Nat) : Works c.desk [] [] (c.retry now) := by
  rw [retry]
  cases c.retries.find? (· ≤ now) with
  | none => exact .still rfl ⟨rfl, rfl⟩
  | some deadline => exact works_rearm { c with retries := c.retries.erase deadline }

theorem works_pump (c : Client H W) (now : Nat) : Works c.desk [] [] (c.pump now) := by
  rw [pump]
  split
  · exact .still rfl ⟨rfl, rfl⟩
  · cases c.core.outbox with
    | nil => exact .still rfl ⟨rfl, rfl⟩
    | cons m rest =>
      let d : Client H W := { c with core := { c.core with outbox := rest } }
      change Works d.desk [] [] (if _ then _ else _)
      split
      · exact works_onSocket d now _
      · cases m.kind with
        | subscribe => exact works_arm d _
        | _ => exact .still rfl ⟨rfl, rfl⟩

theorem works_look (c : Client H W) : Works c.desk [] [] c.look := by
  rw [look]
  split
  · exact .still rfl ⟨rfl, rfl⟩
  · cases c.statuses with
    | nil => exact .still rfl ⟨rfl, rfl⟩
    | cons status rest =>
      have hcore : ∀ again : Bool,
          (if again then c.core.resubscribe else c.core).correlator = c.core.correlator ∧
          (if again then c.core.resubscribe else c.core).closed = c.core.closed := by
        intro again
        cases again with
        | false => exact ⟨rfl, rfl⟩
        | true =>
          simp only [if_true, Core.resubscribe]
          split <;> exact ⟨rfl, rfl⟩
      obtain ⟨hcorrelator, hclosed⟩ := hcore (c.supervisor.onStatus status).resubscribe
      refine .still ?_ ?_
      · simp only [desk, hcorrelator, hclosed]
      · dsimp only
        split <;> exact ⟨rfl, rfl⟩

end Client

/-! ## What comes in -/

/-- No call of a handler makes or answers a request; at most it closes the client. -/
def Behaviour.Discreet {H W : Type} (b : Behaviour H W) : Prop :=
  ∀ id h event c,
    ((b id h event c).2.correlator = c.correlator ∧ (b id h event c).2.closed = c.closed) ∨
    ((b id h event c).2.correlator = c.correlator.failAll ∧ (b id h event c).2.closed = true)

/-- The desk around a core. -/
def Core.desk {H W : Type} (calls : List (Nat × Option UInt64)) (last : Nat) (c : Core H W) :
    Desk :=
  ⟨c.correlator, c.closed, calls, last⟩

namespace Inbound
variable {H W : Type} {calls : List (Nat × Option UInt64)} {last : Nat}

/-- From `i` to `j` these responses come in and nothing else happens at the desk, except that
the client may be closed. -/
def Takes (calls : List (Nat × Option UInt64)) (last : Nat) (i : Inbound H W) (ms : List Message)
    (j : Inbound H W) : Prop :=
  ∃ ds, Deeds (i.core.desk calls last) ds (j.core.desk calls last) ∧
    Desk.heard ds = ms ∧ Desk.issues ds = [] ∧ Desk.returned ds = [] ∧
    ∃ more, j.answered = i.answered ++ more ∧
      more.filterMap (fun id => (i.core.desk calls last).caller? id) = Desk.answered ds

theorem Takes.still {i j : Inbound H W} (h : j.core.desk calls last = i.core.desk calls last)
    (hanswered : j.answered = i.answered) : i.Takes calls last [] j := by
  refine ⟨[], ?_, rfl, rfl, rfl, [], ?_, rfl⟩
  · rw [h]
    exact .nil _
  · rw [hanswered, List.append_nil]

theorem Takes.trans {i j k : Inbound H W} {ms ms' : List Message} (h : i.Takes calls last ms j)
    (h' : j.Takes calls last ms' k) : i.Takes calls last (ms ++ ms') k := by
  obtain ⟨ds, hds, rfl, hissues, hreturned, more, hmore, hcallers⟩ := h
  obtain ⟨es, hes, rfl, hissues', hreturned', more', hmore', hcallers'⟩ := h'
  refine ⟨ds ++ es, hds.trans hes, Desk.heard_append ds es, ?_, ?_, more ++ more', ?_, ?_⟩
  · rw [Desk.issues_append, hissues, hissues', List.append_nil]
  · rw [Desk.returned_append, hreturned, hreturned', List.append_nil]
  · rw [hmore', hmore, List.append_assoc]
  · rw [List.filterMap_append, hcallers, Desk.answered_append, ← hcallers']
    rfl

section Handlers
variable {b : Behaviour H W}

theorem takes_called (hb : b.Discreet) {id : HandlerId} {h : H} {event : TopicEvent}
    {i j : Inbound H W} (hcore : j.core = (b id h event i.core).2)
    (hanswered : j.answered = i.answered) : i.Takes calls last [] j := by
  rcases hb id h event i.core with ⟨hcorrelator, hclosed⟩ | ⟨hcorrelator, hclosed⟩
  · refine .still ?_ hanswered
    simp only [hcore, Core.desk, hcorrelator, hclosed]
  · refine ⟨[.closed], ?_, rfl, rfl, rfl, [], ?_, rfl⟩
    · have hdesk : j.core.desk calls last =
          { i.core.desk calls last with
            correlator := (i.core.desk calls last).correlator.failAll
            closed := true } := by
        simp only [hcore, Core.desk, hcorrelator, hclosed]
      rw [hdesk]
      exact .one .close
    · rw [hanswered, List.append_nil]

theorem takes_responded {m : Message} {i j : Inbound H W}
    (hcore : j.core = { i.core with correlator := (i.core.correlator.resolve m).2 })
    (hanswered : j.answered = i.answered ++ Core.answered (i.core, .responded m)) :
    i.Takes calls last [m] j := by
  have hheard : Deeds (i.core.desk calls last) [.heard m ((i.core.desk calls last).answers? m)]
      (j.core.desk calls last) := by
    rw [hcore]
    exact .one (.hear m)
  refine ⟨_, hheard, rfl, rfl, rfl, _, hanswered, ?_⟩
  have hone : Desk.answered [.heard m ((i.core.desk calls last).answers? m)] =
      ((i.core.desk calls last).answers? m).toList := answered_snoc [] _
  rw [hone, Desk.answers?]
  change (if (i.core.correlator.resolve m).1 then _ else _ : List UInt64).filterMap _ =
    (if (i.core.correlator.resolve m).1 then _ else none).toList
  split
  · cases m.id with
    | none => rfl
    | some id =>
      simp only [Option.toList_some, List.filterMap_cons, List.filterMap_nil, Option.bind_some]
      cases (i.core.desk calls last).caller? id <;> rfl
  · rfl

theorem takes_happen (hb : b.Discreet) {now : Nat} {x : Happening H} {i j : Inbound H W}
    (hcore : j.core = i.core.happen b now x)
    (hanswered : j.answered = i.answered ++ Core.answered (i.core, x)) :
    i.Takes calls last x.response?.toList j := by
  cases x with
  | responded m => exact takes_responded hcore hanswered
  | called id h event => exact takes_called hb hcore (hanswered.trans (List.append_nil _))
  | _ => exact .still (by rw [hcore]; rfl) (hanswered.trans (List.append_nil _))

theorem takes_happenings (hb : b.Discreet) {now : Nat} {hs : List (Happening H)}
    {i j : Inbound H W} (hcore : j.core = hs.foldl (Core.happen b now) i.core)
    (hanswered : j.answered = i.answered ++ (Core.stages b now hs i.core).flatMap Core.answered) :
    i.Takes calls last (hs.filterMap Happening.response?) j := by
  induction hs generalizing i with
  | nil =>
    refine .still ?_ (hanswered.trans (List.append_nil _))
    rw [hcore]
    rfl
  | cons x hs ih =>
    let met : Inbound H W :=
      { core := i.core.happen b now x, answered := i.answered ++ Core.answered (i.core, x) }
    have hfirst : i.Takes calls last x.response?.toList met := takes_happen hb rfl rfl
    have hrest : met.Takes calls last (hs.filterMap Happening.response?) j := by
      refine ih hcore ?_
      rw [hanswered, Core.stages, List.flatMap_cons, ← List.append_assoc]
    have hsplit : (x :: hs).filterMap Happening.response? =
        x.response?.toList ++ hs.filterMap Happening.response? := by
      cases hx : x.response? <;> simp [hx]
    rw [hsplit]
    exact hfirst.trans hrest

theorem Runs.takes (hb : b.Discreet) {now : Nat} {hs : List (Happening H)} {i j : Inbound H W}
    (h : i.Runs b now hs j) : i.Takes calls last (hs.filterMap Happening.response?) j :=
  takes_happenings hb h.core h.answered

/-- The responses among these messages. -/
def responses (ms : List Message) : List Message := ms.filter fun m => m.kind = .response

/-- What messages set off holds the responses among them. -/
theorem responses_history (now : Nat) (ms : List Message) (c : Core H W) :
    (c.history b now ms).filterMap Happening.response? = responses ms := by
  have hown (x : Happening H) :
      (if x.call?.isNone = true then x.response? else none) = x.response? := by
    cases x <;> rfl
  have hmessage (m : Message) : (Happening.ofMessage? (H := H) m).bind Happening.response? =
      if m.kind = .response then some m else none := by
    rw [Happening.ofMessage?]
    cases m.kind <;> rfl
  calc (c.history b now ms).filterMap Happening.response?
      = ((c.history b now ms).filter (·.call?.isNone)).filterMap Happening.response? := by
        rw [List.filterMap_filter]
        simp only [hown]
    _ = ms.filterMap fun m => (Happening.ofMessage? (H := H) m).bind Happening.response? := by
        rw [Core.own_history, List.filterMap_filterMap]
    _ = responses ms := by
        simp only [hmessage, responses, ← List.filterMap_eq_filter]
        exact List.filterMap_congr fun m _ => by simp [Option.guard]

theorem takes_fold (hb : b.Discreet) (now : Nat) (ms : List Message) (i : Inbound H W) :
    i.Takes calls last (responses ms) (ms.foldl (Inbound.accept b now) i) := by
  rw [← responses_history (b := b) now ms i.core]
  exact (runs_fold ms i).takes hb

/-- A handler that joins a topic is told its state at once. -/
theorem takes_subscribe (hb : b.Discreet) (topic : String) (h : H) (c : Core H W) :
    Inbound.Takes calls last { core := c } [] (c.subscribe b topic h).2 := by
  let added : Inbound H W :=
    { core :=
      { c with
        registry := (c.registry.add topic h).registry
        outbox := c.outbox ++ (c.registry.add topic h).announcement.toList } }
  have hadded : Inbound.Takes calls last { core := c } [] added := .still rfl rfl
  simp only [Core.subscribe]
  cases (c.registry.add topic h).result.2 with
  | none => exact hadded
  | some d =>
    have htold : added.Takes calls last
        ((Happening.ofDelivery d).filterMap Happening.response?) (added.deliver b d) :=
      (@runs_deliver H W b 0 d added).takes hb
    have hcalls : (Happening.ofDelivery d).filterMap Happening.response? = [] := by
      simp [Happening.ofDelivery, Happening.response?]
    rw [hcalls] at htold
    exact hadded.trans htold

end Handlers

end Inbound

namespace Client
variable {H W : Type} {b : Behaviour H W}

/-- What comes in is told of the calls that it answers. -/
theorem works_absorb {c : Client H W} {i : Inbound H W} {ms : List Message}
    (h : Inbound.Takes c.desk.calls c.lastCall { core := c.core } ms i) :
    Works c.desk ms [] (c.absorb i) := by
  obtain ⟨ds, hds, hheard, hissues, hreturned, more, hmore, hcallers⟩ := h
  have hcaller (id : UInt64) : c.callOf? id = c.desk.caller? id := by
    simp only [callOf?, Desk.caller?, desk, List.find?_map, Option.map_map]
    rfl
  have hanswered : i.answered.filterMap c.callOf? = Desk.answered ds := by
    have hall : i.answered = more := hmore
    rw [hall, ← hcallers]
    exact List.filterMap_congr fun id _ => hcaller id
  refine ⟨ds, ?_, hheard, hissues, ?_, ?_⟩
  · have hdesk : (c.absorb i).1.desk = i.core.desk c.desk.calls c.lastCall := by
      simp only [absorb]
      split <;> rfl
    rw [hdesk]
    exact hds
  · rw [← hanswered, absorb, answersIn_append, (mute_records _).1, answersIn_map, List.nil_append]
  · rw [hreturned, absorb, returnsIn_append, (mute_records _).2, returnsIn_map, List.nil_append]

/-- The responses in a payload. -/
def responsesIn (text : String) (c : Client H W) : List Message :=
  Inbound.responses (Wire.unpack c.core.version text).result

/-- The responses that are dispatched on an event: those of a payload of an open connection, and
those of the body of a post that is under way. -/
def hears (c : Client H W) : ClientEvent H → List Message
  | .payload text =>
    match c.socket.map Socket.phase with
    | some (.connected _) => c.responsesIn text
    | _ => []
  | .outcome key (.ok body) =>
    if (Assoc.find? key c.posts).isSome ∧ body ≠ "" then c.responsesIn body else []
  | _ => []

theorem works_onPayload (hb : b.Discreet) (c : Client H W) (now : Nat) (text : String) :
    Works c.desk (c.responsesIn text) [] (c.absorb (c.core.onPayload b now text)) :=
  works_absorb (Inbound.takes_fold hb now _ { core := c.core })

theorem works_payload (hb : b.Discreet) (c : Client H W) (now : Nat) (text : String) :
    Works c.desk (c.hears (.payload text)) [] (c.payload b now text) := by
  rw [payload, hears]
  cases c.socket.map Socket.phase with
  | none => exact .still rfl ⟨rfl, rfl⟩
  | some phase =>
    cases phase with
    | connected connection =>
      exact (works_onPayload hb c now text).andStill (works_onSocket _ now _)
    | _ => exact .still rfl ⟨rfl, rfl⟩

theorem works_deliver (hb : b.Discreet) (c : Client H W) (now : Nat) (body : String) :
    Works c.desk (if body ≠ "" then c.responsesIn body else []) [] (c.deliver b now body) := by
  rw [deliver]
  by_cases hempty : body = ""
  · rw [if_pos hempty, if_neg (not_not.mpr hempty)]
    exact .still rfl ⟨rfl, rfl⟩
  · rw [if_neg hempty, if_pos hempty]
    exact works_onPayload hb c now body

theorem works_pollOutcome (hb : b.Discreet) (c : Client H W) (now : Nat) (topic body : String) :
    Works c.desk (if body ≠ "" then c.responsesIn body else []) []
      (c.pollOutcome b now topic (.ok body)) := by
  let d := c.withPolling (Polling.finish topic)
  exact (works_deliver hb d now body).andStill (works_rearm _)

theorem works_callOutcome (hb : b.Discreet) (c : Client H W) (now number : Nat) (body : String) :
    Works c.desk (if body ≠ "" then c.responsesIn body else []) []
      (c.callOutcome b now number (.ok body)) := by
  let d := c.updateCall number fun call => { call with post := none }
  have hdesk : d.desk = c.desk := desk_updateCall c number fun _ => rfl
  have hdeliver := works_deliver hb d now body
  rw [hdesk] at hdeliver
  exact hdeliver.andStill (.still (desk_markSent _ number) ⟨rfl, rfl⟩)

theorem works_outcome_ok (hb : b.Discreet) (c : Client H W) (now key : Nat) (body : String) :
    Works c.desk (c.hears (.outcome key (.ok body))) [] (c.outcome b now key (.ok body)) := by
  let d : Client H W := { c with posts := Assoc.erase key c.posts }
  simp only [hears, outcome]
  cases Assoc.find? key c.posts with
  | none => exact .still rfl ⟨rfl, rfl⟩
  | some purpose =>
    simp only [Option.isSome_some, true_and]
    cases purpose with
    | poll topic ts => exact works_pollOutcome hb d now topic body
    | call number => exact works_callOutcome hb d now number body
    | besteffort => exact works_deliver hb d now body

theorem works_outcome_error (b : Behaviour H W) (c : Client H W) (now key : Nat)
    (e : TransportError) : Works c.desk [] [] (c.outcome b now key (.error e)) := by
  let d : Client H W := { c with posts := Assoc.erase key c.posts }
  simp only [outcome]
  cases Assoc.find? key c.posts with
  | none => exact .still rfl ⟨rfl, rfl⟩
  | some purpose =>
    cases purpose with
    | poll topic ts =>
      simp only [pollOutcome]
      split
      · split <;> exact .still rfl ⟨rfl, rfl⟩
      · exact .still rfl ⟨rfl, rfl⟩
    | call number =>
      have hdesk : (d.updateCall number fun call => { call with post := none }).desk = c.desk :=
        desk_updateCall d number fun _ => rfl
      have hfails := works_fail (d.updateCall number fun call => { call with post := none }) number
        (e := .transport e) trivial
      rw [hdesk] at hfails
      exact hfails
    | besteffort => exact .still rfl ⟨rfl, rfl⟩

theorem works_subscribe (hb : b.Discreet) (c : Client H W) (topic : String) (h : H) :
    Works c.desk [] [] (c.subscribe b topic h).2 :=
  works_absorb (Inbound.takes_subscribe hb topic h c.core)

theorem works_close (c : Client H W) : Works c.desk [] [] (c.close, []) :=
  ⟨[.closed], .one .close, rfl, rfl, rfl, rfl⟩

/-- Every step of a client is deeds at its desk. -/
theorem works_step (hb : b.Discreet) (c : Client H W) (now : Nat) (e : ClientEvent H) :
    Works c.desk (c.hears e) (c.asks e) (c.step b now e) := by
  cases e with
  | subscribe topic h => exact works_subscribe hb c topic h
  | unsubscribe topic id => exact .still rfl ⟨rfl, rfl⟩
  | request uri payload reported => exact works_request c now uri payload reported
  | describe metadata => exact works_describe c now metadata
  | close => exact works_close c
  | pump => exact works_pump c now
  | look => exact works_look c
  | payload text => exact works_payload hb c now text
  | socket e => exact works_onSocket c now e
  | outcome key result =>
    cases result with
    | ok body => exact works_outcome_ok hb c now key body
    | error e => exact works_outcome_error b c now key e
  | retry => exact works_retry c now
  | expire call => exact works_expire c now call
  | collect call => exact works_collect c call

end Client

end TopicClient
