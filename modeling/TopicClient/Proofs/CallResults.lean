import TopicClient.Proofs.DeskSteps
import TopicClient.Scenario.Listener

/-!
# What calls return

Whatever order responses, failures, timeouts and the end of the client come in, a request
is pending until it is answered or returns. It returns the first response with its id that
comes in after it was made, or a failure of its own; and then its id is forgotten.
-/

namespace TopicClient

/-! ## Deeds of a whole run -/

namespace Desk
variable {k l : Desk}

/-- No call is told of before it has been taken down. -/
theorem Sound.last_deeds {ds : List Deed} (h : k.Sound) (hds : Deeds k ds l)
    (fits : k.correlator.lastId.toNat + (issues ds).length < 2 ^ 64) :
    k.last ≤ l.last ∧ (∀ n ∈ answered ds, n ≤ l.last) ∧ ∀ r ∈ returned ds, r.1 ≤ l.last := by
  induction hds with
  | nil => exact ⟨Nat.le_refl _, by simp [answered], by simp [returned]⟩
  | @cons k l j d ds does rest ih =>
    rw [issues_cons, List.length_append] at fits
    have hnext := lastId_does does (by omega)
    obtain ⟨hfirst, hanswered, hreturned⟩ := h.last_does does
    obtain ⟨hlast, hanswers, hreturns⟩ := ih (h.does does (by omega)) (by omega)
    refine ⟨by omega, ?_, ?_⟩
    · intro n hn
      rw [← List.singleton_append, answered_append, List.mem_append] at hn
      rcases hn with hn | hn
      · have hone : d.answered? = some n := by simpa [answered] using hn
        have hbound := hanswered n hone
        omega
      · exact hanswers n hn
    · intro r hr
      rw [← List.singleton_append, returned_append, List.mem_append] at hr
      rcases hr with hr | hr
      · have hone : d.returned? = some r := by simpa [returned] using hr
        have hbound := hreturned r hone
        omega
      · exact hreturns r hr

end Desk

theorem resultsOf_eq_nil {n : Nat} {rs : List (Nat × Except ClientError Json)}
    (h : ∀ r ∈ rs, r.1 ≠ n) : resultsOf n rs = [] := by
  refine List.filterMap_eq_nil_iff.mpr ?_
  intro r hr
  rw [if_neg (h r hr)]

theorem life_begin {k : Desk} (opened : k.closed = false) (uri : String) (payload : Json) :
    Life (k.last + 1) (k.correlator.lastId + 1) []
      { k with
        correlator := (k.correlator.request uri payload).2.2
        calls := k.calls ++ [(k.last + 1, some (k.correlator.lastId + 1))]
        last := k.last + 1 } := by
  have hasks :=
    Correlator.outcome?_request (c := k.correlator) uri payload (k.correlator.lastId + 1)
  rw [if_pos rfl] at hasks
  refine .waiting ?_ opened hasks rfl (by simp [Desk.answered]) rfl
  exact List.mem_append_right _ (List.mem_singleton_self _)

/-! ## Runs of a client -/

namespace Client
variable {H W : Type} {b : Behaviour H W}

/-- The responses that are dispatched in a run, in order. -/
def hearsAlong (b : Behaviour H W) (c : Client H W) : List (Nat × ClientEvent H) → List Message
  | [] => []
  | (now, e) :: rest => c.hears e ++ (c.step b now e).1.hearsAlong b rest

/-- The requests that are made in a run: their numbers and ids. -/
def asksAlong (b : Behaviour H W) (c : Client H W) :
    List (Nat × ClientEvent H) → List (Nat × UInt64)
  | [] => []
  | (now, e) :: rest => c.asks e ++ (c.step b now e).1.asksAlong b rest

/-- How often a request is made, or would be if the client were open. -/
def requests (events : List (Nat × ClientEvent H)) : Nat :=
  events.countP fun e => e.2 matches .request ..

theorem asksAlong_length (b : Behaviour H W) (c : Client H W)
    (events : List (Nat × ClientEvent H)) : (c.asksAlong b events).length ≤ requests events := by
  induction events generalizing c with
  | nil => exact Nat.le_refl 0
  | cons event rest ih =>
    obtain ⟨now, e⟩ := event
    have hrest := ih (c.step b now e).1
    have hone : (c.asks e).length ≤ requests [(now, e)] := by
      cases e with
      | request uri payload reported =>
        rw [asks]
        split <;> simp [requests]
      | _ => exact Nat.zero_le _
    have hsplit : requests ([(now, e)] ++ rest) = requests [(now, e)] + requests rest :=
      List.countP_append
    rw [List.singleton_append] at hsplit
    rw [asksAlong, List.length_append, hsplit]
    omega

theorem requests_around (before after : List (Nat × ClientEvent H)) (now : Nat) (uri : String)
    (payload : Json) (reported : Bool) :
    requests (before ++ (now, .request uri payload reported) :: after) =
      requests before + 1 + requests after := by
  rw [requests, List.countP_append, List.countP_cons_of_pos rfl]
  change requests before + (requests after + 1) = _
  omega

theorem run_append (b : Behaviour H W) (events more : List (Nat × ClientEvent H))
    (c : Client H W) :
    c.run b (events ++ more) = Step.andThen (c.run b events) fun d => d.run b more := by
  induction events generalizing c with
  | nil => simp [run, Step.andThen]
  | cons event rest ih =>
    obtain ⟨now, e⟩ := event
    simp only [List.cons_append, run, ih, Step.andThen, List.append_assoc]

theorem works_run (hb : b.Discreet) (events : List (Nat × ClientEvent H)) (c : Client H W) :
    Works c.desk (c.hearsAlong b events) (c.asksAlong b events) (c.run b events) := by
  induction events generalizing c with
  | nil => exact .still rfl ⟨rfl, rfl⟩
  | cons event rest ih =>
    obtain ⟨now, e⟩ := event
    exact (works_step hb c now e).andThen (ih _)

/-- In the run the request with this number and this id is made, and after that these
responses are dispatched. -/
def Asked (b : Behaviour H W) (c : Client H W) (events : List (Nat × ClientEvent H)) (n : Nat)
    (id : UInt64) (ms : List Message) : Prop :=
  ∃ before now uri payload reported after,
    events = before ++ (now, .request uri payload reported) :: after ∧
    let d := (c.run b before).1
    d.isClosed = false ∧ n = d.lastCall + 1 ∧ id = d.core.correlator.lastId + 1 ∧
      ms = (d.step b now (.request uri payload reported)).1.hearsAlong b after

theorem sound_start (settings : Settings) (surroundings : W) (since : Nat) :
    (start (H := H) settings surroundings since).desk.Sound where
  tidy := Correlator.tidy_empty
  calls := List.nodup_nil
  bounded entry hmem := by cases hmem
  waits id := by
    refine iff_of_false Bool.false_ne_true ?_
    rintro ⟨n, hmem⟩
    cases hmem
  once n m id hmem := by cases hmem
  shut hclosed := rfl

theorem sound_run (hb : b.Discreet) {c : Client H W} (hs : c.desk.Sound)
    {events : List (Nat × ClientEvent H)}
    (fits : c.desk.correlator.lastId.toNat + requests events < 2 ^ 64) :
    (c.run b events).1.desk.Sound ∧ (c.run b events).1.desk.correlator.lastId.toNat ≤
      c.desk.correlator.lastId.toNat + requests events := by
  obtain ⟨ds, hds, -, hissues, -, -⟩ := works_run hb events c
  have hcount := asksAlong_length b c events
  rw [← hissues] at hcount
  obtain ⟨hsound, hlast⟩ := hs.deeds hds (by omega)
  exact ⟨hsound, by omega⟩

/-- A call that has not been made is not told of. -/
theorem untold_run (hb : b.Discreet) {c : Client H W} (hs : c.desk.Sound)
    (events : List (Nat × ClientEvent H))
    (fits : c.desk.correlator.lastId.toNat + requests events < 2 ^ 64) {n : Nat}
    (hn : (c.run b events).1.lastCall < n) :
    n ∉ answersIn (c.run b events).2 ∧ resultsOf n (returnsIn (c.run b events).2) = [] := by
  obtain ⟨ds, hds, -, hissues, hanswers, hreturns⟩ := works_run hb events c
  have hcount := asksAlong_length b c events
  rw [← hissues] at hcount
  obtain ⟨-, hanswered, hreturned⟩ := hs.last_deeds hds (by omega)
  rw [hanswers, hreturns]
  constructor
  · intro hmem
    have hbound : n ≤ (c.run b events).1.lastCall := hanswered n hmem
    omega
  · refine resultsOf_eq_nil ?_
    intro result hmem
    have hbound : result.1 ≤ (c.run b events).1.lastCall := hreturned result hmem
    omega

/-- A request begins the life of its call, and nothing is heard with it. -/
theorem life_request {d : Client H W} (hs : d.desk.Sound) (hopen : d.isClosed = false)
    (fits : d.desk.correlator.lastId.toNat + 1 < 2 ^ 64) (now : Nat) (uri : String)
    (payload : Json) (reported : Bool) :
    let r := d.request now uri payload reported
    ∃ past, Life (d.lastCall + 1) (d.core.correlator.lastId + 1) past r.1.desk ∧
      r.1.desk.Sound ∧
      r.1.desk.correlator.lastId.toNat = d.desk.correlator.lastId.toNat + 1 ∧
      Desk.heard past = [] ∧ answersIn r.2 = Desk.answered past ∧
      returnsIn r.2 = Desk.returned past := by
  intro r
  have hissue := does_asking hopen now uri payload reported
  have hasking := hs.does hissue fits
  have hlast : (d.asking now uri payload reported).desk.correlator.lastId.toNat =
      d.desk.correlator.lastId.toNat + 1 := Desk.lastId_does hissue fits
  have hbegin : Life (d.lastCall + 1) (d.core.correlator.lastId + 1) []
      (d.asking now uri payload reported).desk := by
    rw [desk_asking]
    exact life_begin (k := d.desk) hopen uri payload
  obtain ⟨past, hpast, hheard, hissued, hanswers, hreturns⟩ :=
    works_transmit (d.asking now uri payload reported) now (d.lastCall + 1)
      (.request uri (d.core.correlator.lastId + 1) payload)
  rw [← request_eq hopen] at hpast hanswers hreturns
  have hfits : (d.asking now uri payload reported).desk.correlator.lastId.toNat +
      (Desk.issues past).length < 2 ^ 64 := by
    rw [hissued, hlast]
    exact fits
  obtain ⟨hsound, hafter⟩ := hasking.deeds hpast hfits
  rw [hissued, hlast] at hafter
  exact ⟨past, hbegin.deeds hasking hpast hfits, hsound, hafter, hheard, hanswers, hreturns⟩

/-- The life of a request, in the words of the client. -/
theorem Asked.life (hb : b.Discreet) {c : Client H W} (hs : c.desk.Sound)
    {events : List (Nat × ClientEvent H)}
    (fits : c.desk.correlator.lastId.toNat + requests events < 2 ^ 64) {n : Nat} {id : UInt64}
    {ms : List Message} (h : Asked b c events n id ms) :
    ∃ past, Life n id past (c.run b events).1.desk ∧ Desk.heard past = ms ∧
      (n ∈ answersIn (c.run b events).2 ↔ n ∈ Desk.answered past) ∧
      resultsOf n (returnsIn (c.run b events).2) = resultsOf n (Desk.returned past) := by
  obtain ⟨before, now, uri, payload, reported, after, rfl, hopen, hn, rfl, rfl⟩ := h
  let d := (c.run b before).1
  let r := d.request now uri payload reported
  have hn : n = d.lastCall + 1 := hn
  rw [requests_around] at fits
  -- before the request
  obtain ⟨hsound, hlast⟩ : d.desk.Sound ∧ d.desk.correlator.lastId.toNat ≤ _ :=
    sound_run hb hs (by omega)
  have hfresh := untold_run hb hs before (n := n) (by omega) (by omega)
  -- the request
  obtain ⟨past, hbegun, hnext, hlast', hheard, hanswers, hreturns⟩ :=
    life_request hsound hopen (by omega) now uri payload reported
  rw [← hn] at hbegun
  -- what comes after
  obtain ⟨fs, hfs, hheard', hissues, hanswers', hreturns'⟩ := works_run hb after r.1
  have hcount := asksAlong_length b r.1 after
  rw [← hissues] at hcount
  have hlife := hbegun.deeds hnext hfs (by omega)
  have hrun : c.run b (before ++ (now, .request uri payload reported) :: after) =
      ((r.1.run b after).1,
        (c.run b before).2 ++ (r.2 ++ (r.1.run b after).2)) := by
    rw [run_append]
    rfl
  rw [hrun]
  refine ⟨past ++ fs, hlife, ?_, ?_, ?_⟩
  · rw [Desk.heard_append, hheard, hheard']
    rfl
  · rw [answersIn_append, answersIn_append, hanswers, hanswers', ← Desk.answered_append,
      List.mem_append, or_iff_right hfresh.1]
  · rw [returnsIn_append, returnsIn_append, hreturns, hreturns', ← Desk.returned_append,
      resultsOf_append, hfresh.2, List.nil_append]

/-! ## The results -/

section Closed
variable {c : Client H W} {n : Nat} {id : UInt64}

end Closed

theorem resultOf_eq_ok {m : Message} {v : Json} (h : Correlator.resultOf m = .ok v) :
    m.error = none ∧ v = m.body.getD .null := by
  rw [Correlator.resultOf, Correlator.result_ofResponse] at h
  cases herror : m.error with
  | none =>
    rw [herror] at h
    exact ⟨rfl, (Except.ok.inj h).symm⟩
  | some e =>
    rw [herror] at h
    cases h

theorem resultOf_eq_application {m : Message} {e : ServerError}
    (h : Correlator.resultOf m = .error (.application e)) : m.error = some e := by
  rw [Correlator.resultOf, Correlator.result_ofResponse] at h
  cases herror : m.error with
  | none =>
    rw [herror] at h
    cases h
  | some e' =>
    rw [herror] at h
    rw [ClientError.application.inj (Except.error.inj h)]

section Settled
variable {c : Client H W} {events : List (Nat × ClientEvent H)} {n : Nat} {id : UInt64}
  {ms : List Message}

theorem pending_iff (hs : c.desk.Sound) (id : UInt64) :
    id ∈ c.core.correlator.pending ↔ c.desk.correlator.outcome? id = some none :=
  hs.tidy.linked.pending id

theorem Asked.pending (hb : b.Discreet) (hs : c.desk.Sound)
    (fits : c.desk.correlator.lastId.toNat + requests events < 2 ^ 64)
    (h : Asked b c events n id ms) (hopen : (c.run b events).1.isClosed = false)
    (hgoing : resultsOf n (returnsIn (c.run b events).2) = [])
    (hunheard : ∀ m ∈ ms, m.id ≠ some id) :
    id ∈ (c.run b events).1.core.correlator.pending := by
  obtain ⟨past, hlife, rfl, -, hresults⟩ := h.life hb hs fits
  cases hlife with
  | waiting call opened got => exact (pending_iff (sound_run hb hs fits).1 id).mpr got
  | answered call got first =>
    have hid := List.find?_some first
    exact (hunheard _ (List.mem_of_find?_eq_some first) (by simpa using hid)).elim
  | dismissed call closed => cases hopen.symm.trans closed
  | ended gone old got issued back => cases back.symm.trans (hresults.symm.trans hgoing)

/-- What a request returns is its only result and comes from the first response with its id or
is a failure of its own, and the id is pending no more. -/
theorem Asked.returned (hb : b.Discreet) (hs : c.desk.Sound)
    (fits : c.desk.correlator.lastId.toNat + requests events < 2 ^ 64)
    (h : Asked b c events n id ms) {result : Except ClientError Json}
    (hresult : result ∈ resultsOf n (returnsIn (c.run b events).2)) :
    resultsOf n (returnsIn (c.run b events).2) = [result] ∧
    (∀ v, result = .ok v →
      ∃ m, firstFor id ms = some m ∧ m.error = none ∧ v = m.body.getD .null) ∧
    (∀ e, result = .error (.application e) →
      ∃ m, firstFor id ms = some m ∧ m.error = some e) ∧
    id ∉ (c.run b events).1.core.correlator.pending := by
  obtain ⟨past, hlife, rfl, -, hresults⟩ := h.life hb hs fits
  rw [hresults] at hresult
  cases hlife with
  | waiting _ _ _ _ _ going | answered _ _ _ _ going | dismissed _ _ _ _ going =>
    rw [going] at hresult
    cases hresult
  | ended gone old got issued back reason =>
    rw [back, List.mem_singleton] at hresult
    subst hresult
    refine ⟨hresults.trans back, ?_, ?_, ?_⟩
    · rintro v rfl
      obtain ⟨-, m, hm, hv⟩ := reason.resolve_left fun hown => hown
      obtain ⟨herror, hbody⟩ := resultOf_eq_ok hv.symm
      exact ⟨m, hm, herror, hbody⟩
    · rintro e rfl
      obtain ⟨-, m, hm, he⟩ := reason.resolve_left fun hown => hown
      exact ⟨m, hm, resultOf_eq_application he.symm⟩
    · rw [pending_iff (sound_run hb hs fits).1, got]
      simp

/-- A request that nothing has answered when the client is closed has been dismissed. -/
theorem Asked.dismissed (hb : b.Discreet) (hs : c.desk.Sound)
    (fits : c.desk.correlator.lastId.toNat + requests events < 2 ^ 64)
    (h : Asked b c events n id ms) (hclosed : (c.run b events).1.isClosed = true)
    (hgoing : resultsOf n (returnsIn (c.run b events).2) = [])
    (hunanswered : n ∉ answersIn (c.run b events).2) :
    (n, some id) ∈ (c.run b events).1.desk.calls ∧
      (c.run b events).1.desk.correlator.outcome? id = some (some (.error .closed)) := by
  obtain ⟨past, hlife, -, hanswered, hresults⟩ := h.life hb hs fits
  cases hlife with
  | waiting call opened => cases hclosed.symm.trans opened
  | answered call got first told => exact (hunanswered (hanswered.mpr told)).elim
  | dismissed call closed got => exact ⟨call, got⟩
  | ended gone old got issued back => cases back.symm.trans (hresults.symm.trans hgoing)

end Settled

end Client

end TopicClient
