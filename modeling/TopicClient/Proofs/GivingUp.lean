import Mathlib.Algebra.Ring.Nat
import TopicClient.Proofs.Attempts
import TopicClient.Proofs.StatusLog

/-!
# Giving up

The policy is asked before every attempt. It counts all attempts that were ever begun, and
it counts only as long as none has become healthy. So whatever it says about giving up it
says once, before the attempt that follows the last allowed one.
-/

namespace TopicClient.Socket
variable {T : Type}

def dials (effects : List (SocketEffect T)) : Nat :=
  effects.countP fun effect => effect matches .dial

def giveUps (recorded : List StatusEvent) : Nat :=
  recorded.countP fun event => event.name = "giveUp"

/-- The attempt after the first `limit` begins in a run, and none of those had become healthy. -/
def Spent (limit : Nat) (s : Socket T) (events : List (Nat × SocketEvent T)) : Prop :=
  ∃ before now after, events = before ++ (now, .attempt) :: after ∧
    (s.run before).1.due now = true ∧ s.endings before = List.replicate limit false

theorem not_spent_nil (limit : Nat) (s : Socket T) : ¬ s.Spent limit [] := by
  rintro ⟨before, now, after, hevents, -⟩
  simp at hevents

theorem spent_snoc (limit : Nat) (s : Socket T) (events : List (Nat × SocketEvent T)) (now : Nat)
    (e : SocketEvent T) :
    s.Spent limit (events ++ [(now, e)]) ↔ s.Spent limit events ∨
      e = .attempt ∧ (s.run events).1.due now = true ∧
        s.endings events = List.replicate limit false := by
  constructor
  · rintro ⟨before, at', after, hevents, hdue, hpast⟩
    rcases List.eq_nil_or_concat after with rfl | ⟨after, last, rfl⟩
    · obtain ⟨rfl, hlast⟩ := List.append_inj' hevents rfl
      cases hlast
      exact .inr ⟨rfl, hdue, hpast⟩
    · rw [List.concat_eq_append, ← List.cons_append, ← List.append_assoc] at hevents
      obtain ⟨hbefore, -⟩ := List.append_inj' hevents rfl
      exact .inl ⟨before, at', after, hbefore, hdue, hpast⟩
  · rintro (⟨before, at', after, rfl, hdue, hpast⟩ | ⟨rfl, hdue, hpast⟩)
    · exact ⟨before, at', after ++ [(now, e)], by simp, hdue, hpast⟩
    · exact ⟨events, now, [], rfl, hdue, hpast⟩

/-! ## What is recorded -/

theorem giveUps_append (first last : List StatusEvent) :
    giveUps (first ++ last) = giveUps first + giveUps last :=
  List.countP_append

theorem giveUps_record {s : ConnectionStatus} (h : s.events = []) (now : Nat) {name : String}
    (hname : name ≠ "giveUp") (detail : Detail) :
    giveUps (s.record now name detail).events = 0 := by
  simp [giveUps, ConnectionStatus.record, h, ConnectionStatus.eventLimit, hname]

theorem dials_append (first last : List (SocketEffect T)) :
    dials (first ++ last) = dials first + dials last :=
  List.countP_append

theorem dials_of_silent {effects : List (SocketEffect T)} (h : .dial ∉ effects) :
    dials effects = 0 := by
  refine List.countP_eq_zero.mpr ?_
  intro effect hmem
  cases effect with
  | dial => exact (h hmem).elim
  | wrote | pinged | saidGoodbye | settled | published => nofun

section Steps
variable {now : Nat} {s : Socket T}

/-- Only the beginning of an attempt can record that the socket gives up. -/
theorem giveUps_course {e : SocketEvent T} {r : Step T} (h : Course now s e r)
    (hempty : s.status.events = []) (he : e ≠ .cancel) (hearly : e = .attempt → s.due now = false) :
    giveUps r.1.status.events = 0 := by
  have hnone : giveUps s.status.events = 0 := by
    rw [hempty]
    rfl
  cases h with
  | idle | queued | refused | written | pinged => exact hnone
  | begun due => exact nomatch due.symm.trans (hearly rfl)
  | opened dialing => exact giveUps_record hempty now (by decide) {}
  | received connected isPong =>
    rw [received, ConnectionStatus.onMessage]
    cases isPong && !s.status.connected with
    | true => exact giveUps_record hempty now (by decide) {}
    | false => exact hnone
  | failed connected queue text => exact giveUps_record hempty now (by decide) _
  | ended underWay h named detail =>
    refine giveUps_record hempty now ?_ detail
    rintro rfl
    simp at named
  | cancelled => exact absurd rfl he

theorem giveUps_of_early {e : SocketEvent T} (he : e ≠ .cancel)
    (hearly : e = .attempt → s.due now = false) : giveUps (s.recorded now e) = 0 :=
  giveUps_course (course_step now e (s.withLog [])) rfl he hearly

theorem giveUps_of_due (h : s.due now = true) :
    giveUps (s.recorded now .attempt) = if s.verdict = .proceed then 0 else 1 := by
  have hdue : (s.withLog []).due now = true := h
  have hsame : (s.withLog []).verdict = s.verdict := rfl
  rw [recorded, step_of_due hdue, attempt_eq, hsame]
  cases s.verdict with
  | proceed | report | stop => rfl

/-! ## The beginning of an attempt -/

/-- How many attempts have begun and not ended. -/
def begun (s : Socket T) : Nat :=
  match s.phase with
  | .starting | .waiting _ => 0
  | .dialing _ | .connected _ | .stopped => 1

theorem begun_of_due (h : s.due now = true) : s.begun = 0 := by
  rw [due] at h
  rw [begun]
  cases hphase : s.phase with
  | starting | waiting => rfl
  | dialing | connected | stopped => simp [hphase] at h

/-- What the beginning of an attempt comes to. -/
structure Begun (s : Socket T) (r : Step T) : Prop where
  settings : r.1.settings = s.settings
  connects : r.1.status.connects = s.status.connects + 1
  success : r.1.status.success = s.status.success
  reported : r.1.reported = (s.reported || decide (s.verdict = .report))
  begun : r.1.begun = 1
  stopped : r.1.phase = .stopped ↔ s.verdict = .stop
  dials : dials r.2 = if s.verdict = .stop then 0 else 1

theorem begun_attempt (now : Nat) (s : Socket T) : Begun s (s.attempt now) := by
  cases hverdict : s.verdict with
  | proceed =>
    rw [attempt_of_proceed now hverdict]
    refine ⟨rfl, rfl, rfl, by simp [hverdict, dial], rfl, by simp [hverdict, dial], ?_⟩
    rw [hverdict]
    rfl
  | report =>
    rw [attempt_of_report now hverdict]
    refine ⟨rfl, rfl, rfl, by simp [hverdict, dial], rfl, by simp [hverdict, dial], ?_⟩
    rw [hverdict]
    rfl
  | stop =>
    rw [attempt_of_stop now hverdict]
    refine ⟨rfl, rfl, rfl, by simp [hverdict, finish], rfl, by simp [hverdict, finish], ?_⟩
    simp [hverdict, finish, dials]

end Steps

/-! ## The threshold -/

theorem not_next_le {n : UInt32} (h : n.toNat + 1 < 2 ^ 32) : ¬ n + 1 ≤ n := by
  rw [UInt32.le_iff_toNat_le, UInt32.toNat_add, UInt32.toNat_one, Nat.mod_eq_of_lt h]
  omega

theorem le_of_not_next_le {n : UInt32} {count : Nat} (h : ¬ UInt32.ofNat count + 1 ≤ n) :
    n.toNat ≤ count := by
  rw [UInt32.le_iff_toNat_le, UInt32.toNat_add, UInt32.toNat_ofNat', UInt32.toNat_one] at h
  omega

/-! ## The invariant -/

theorem not_healthy_of_due {now : Nat} {s : Socket T} (hs : s.Steady) (h : s.due now = true) :
    s.state ≠ .healthy := by
  intro hhealthy
  obtain ⟨c, hphase⟩ := hs.connected_of_healthy hhealthy
  simp [due, hphase] at h

theorem Kept.stopped_iff {s t : Socket T} (h : s.Kept t) :
    t.phase = .stopped ↔ s.phase = .stopped := by
  cases hunder : s.underWay with
  | none => rw [h.phase hunder]
  | some healthy =>
    have hafter : t.underWay.isSome = true := by
      rw [h.underWay, hunder]
      rfl
    obtain ⟨healthy', hunder'⟩ := Option.isSome_iff_exists.mp hafter
    constructor
    · intro hstopped
      exact (live_of_underWay hunder' hstopped).elim
    · intro hstopped
      exact (live_of_underWay hunder hstopped).elim

theorem begun_of_underWay {s : Socket T} (h : s.underWay.isSome = true) : s.begun = 1 := by
  rw [underWay] at h
  rw [begun]
  cases hphase : s.phase with
  | dialing | connected | stopped => rfl
  | starting | waiting => simp [hphase] at h

theorem Kept.begun {s t : Socket T} (h : s.Kept t) : t.begun = s.begun := by
  cases hunder : s.underWay with
  | none => rw [Socket.begun, h.phase hunder, Socket.begun]
  | some healthy =>
    have hbefore : s.underWay.isSome = true := by rw [hunder]; rfl
    have hafter : t.underWay.isSome = true := by rw [h.underWay, hbefore]
    rw [begun_of_underWay hbefore, begun_of_underWay hafter]

/-- How many attempts there were, whether one became healthy, and what follows from it. The
counter of the status may have wrapped since the policy had its say, but it can go beyond the
threshold. -/
structure Tally (plan : GiveUpSettings) (past : List Bool) (dialled gaveUp : Nat)
    (spent : Prop) (s : Socket T) : Prop where
  planned : s.settings.giveUp = plan
  reachable : plan.afterAttempts.toNat + 1 < 2 ^ 32
  connects : s.status.connects = UInt32.ofNat (past.length + s.begun)
  dialled : dialled + (if s.phase = .stopped then 1 else 0) = past.length + s.begun
  success : s.status.success = true ↔ true ∈ past ∨ s.state = .healthy
  stopped : s.phase = .stopped ↔ spent ∧ plan.policy = .stop
  reported : s.reported = true ↔ spent ∧ plan.policy = .notify
  once : gaveUp ≤ 1
  gaveUp : gaveUp = 1 ↔ spent ∧ plan.policy ≠ .never
  within : spent → plan.afterAttempts.toNat < past.length + s.begun
  beyond : s.status.success = false → plan.afterAttempts.toNat < past.length + s.begun → spent
  last : s.phase = .stopped → past.length + s.begun = plan.afterAttempts.toNat + 1

theorem tally_start (settings : SocketSettings) (since : Nat)
    (hreachable : settings.giveUp.afterAttempts.toNat + 1 < 2 ^ 32) :
    Tally settings.giveUp [] 0 0 False (start (T := T) settings since) := by
  refine ⟨rfl, hreachable, rfl, rfl, ?_, ?_, ?_, by decide, ?_, nofun, nofun, nofun⟩
  · simp [start, ConnectionStatus.start]
  · simp [start]
  · simp [start]
  · simp

namespace Tally
variable {plan : GiveUpSettings} {past : List Bool} {dialled gaveUp : Nat} {spent : Prop}
  {s : Socket T} {now : Nat} {e : SocketEvent T}

/-- Success is told by the attempts that have ended and the one that is healthy now. -/
theorem success_step (h : Tally plan past dialled gaveUp spent s) (hs : s.Steady) (now : Nat)
    (he : e ≠ .cancel) :
    (s.step now e).1.status.success = true ↔
      true ∈ past ++ (s.ended? now e).toList ∨ (s.step now e).1.state = .healthy := by
  have hstep := (move_step s now e).success_eq hs.sound
  have hbefore : s.health.success = true ↔ true ∈ past ∨ s.state = .healthy := h.success
  rw [hstep, Bool.or_eq_true, hbefore, decide_eq_true_iff, List.mem_append, Option.mem_toList]
  constructor
  · rintro ((hpast | hhealthy) | hnow)
    · exact .inl (.inl hpast)
    · rcases hs.healthy_until_ended hhealthy now he with hstill | hended
      · exact .inr hstill
      · exact .inl (.inr hended)
    · exact .inr hnow
  · rintro ((hpast | hended) | hnow)
    · exact .inl (.inl hpast)
    · have hhealthy : s.state = .healthy := by
        rw [ended?] at hended
        split at hended
        · simpa using hended
        · simp at hended
      exact .inl (.inr hhealthy)
    · exact .inr hnow

theorem success_of_due (h : Tally plan past dialled gaveUp spent s) (hs : s.Steady)
    (hdue : s.due now = true) : s.status.success = true ↔ true ∈ past := by
  rw [h.success, or_iff_left (not_healthy_of_due hs hdue)]

theorem connects_of_due (h : Tally plan past dialled gaveUp spent s) (hdue : s.due now = true) :
    s.status.connects = UInt32.ofNat past.length := by
  rw [h.connects, begun_of_due hdue, Nat.add_zero]

/-- The last allowed attempt has ended; nothing was said before. -/
theorem not_spent_of_fresh (h : Tally plan past dialled gaveUp spent s) (hdue : s.due now = true)
    (hfresh : past = List.replicate plan.afterAttempts.toNat false) : ¬ spent := by
  intro hspent
  have hlate := h.within hspent
  rw [begun_of_due hdue, hfresh, List.length_replicate] at hlate
  omega

/-- What the policy says before an attempt: something only after the last allowed one. -/
theorem verdict_of_fresh (h : Tally plan past dialled gaveUp spent s) (hs : s.Steady)
    (hdue : s.due now = true) (hfresh : past = List.replicate plan.afterAttempts.toNat false) :
    (s.verdict = .stop ↔ plan.policy = .stop) ∧ (s.verdict = .report ↔ plan.policy = .notify) := by
  have hsuccess : s.status.success = false := by
    rw [Bool.eq_false_iff, ne_eq, h.success_of_due hs hdue, hfresh]
    simp
  have hreported : s.reported = false := by
    rw [Bool.eq_false_iff, ne_eq, h.reported]
    intro hsaid
    exact h.not_spent_of_fresh hdue hfresh hsaid.1
  have hlate : ¬ s.status.connects + 1 ≤ plan.afterAttempts := by
    rw [h.connects_of_due hdue, hfresh, List.length_replicate, UInt32.ofNat_toNat]
    exact not_next_le h.reachable
  simp only [verdict, h.planned, giveUpAction, hsuccess, hreported, hlate]
  cases plan.policy <;> simp

/-- All attempts so far failed, and the last allowed one is not the last of them. -/
theorem spent_of_late (h : Tally plan past dialled gaveUp spent s) (hs : s.Steady)
    (hdue : s.due now = true) (hsuccess : s.status.success = false)
    (hlate : plan.afterAttempts.toNat ≤ past.length)
    (hstale : past ≠ List.replicate plan.afterAttempts.toNat false) : spent := by
  have hnever : true ∉ past := by
    rw [← h.success_of_due hs hdue, hsuccess]
    nofun
  have hall : past = List.replicate past.length false := by
    rw [List.eq_replicate_iff]
    refine ⟨rfl, ?_⟩
    intro healthy hmem
    cases healthy with
    | false => rfl
    | true => exact (hnever hmem).elim
  have hother : past.length ≠ plan.afterAttempts.toNat := by
    intro hlength
    rw [hlength] at hall
    exact hstale hall
  exact h.beyond hsuccess (by rw [begun_of_due hdue]; omega)

theorem verdict_of_stale (h : Tally plan past dialled gaveUp spent s) (hs : s.Steady)
    (hdue : s.due now = true) (hstale : past ≠ List.replicate plan.afterAttempts.toNat false) :
    s.verdict = .proceed := by
  simp only [verdict, h.planned, giveUpAction]
  cases hsuccess : s.status.success with
  | true => simp
  | false =>
    by_cases hearly : s.status.connects + 1 ≤ plan.afterAttempts
    · simp [hearly]
    · have hlate : plan.afterAttempts.toNat ≤ past.length := by
        rw [h.connects_of_due hdue] at hearly
        exact le_of_not_next_le hearly
      have hspent := h.spent_of_late hs hdue hsuccess hlate hstale
      have hreported : plan.policy = .notify → s.reported = true :=
        fun hpolicy => h.reported.mpr ⟨hspent, hpolicy⟩
      have hgoing : plan.policy ≠ .stop :=
        fun hpolicy => live_of_due hdue (h.stopped.mpr ⟨hspent, hpolicy⟩)
      simp only [hearly]
      cases hpolicy : plan.policy with
      | never => rfl
      | stop => exact (hgoing hpolicy).elim
      | notify => simp [hreported hpolicy]

theorem not_stop_of_policy (h : Tally plan past dialled gaveUp spent s) (hs : s.Steady)
    (hdue : s.due now = true) (hpolicy : plan.policy ≠ .stop) : s.verdict ≠ .stop := by
  by_cases hfresh : past = List.replicate plan.afterAttempts.toNat false
  · exact mt (h.verdict_of_fresh hs hdue hfresh).1.mp hpolicy
  · rw [h.verdict_of_stale hs hdue hfresh]
    nofun

theorem passes (h : Tally plan past dialled gaveUp spent s) {t : Socket T} (hkept : s.Kept t)
    (hsuccess : t.status.success = true ↔ true ∈ past ∨ t.state = .healthy) :
    Tally plan past dialled gaveUp spent t where
  planned := by rw [hkept.settings, h.planned]
  reachable := h.reachable
  connects := by rw [hkept.connects, hkept.begun, h.connects]
  dialled := by simp only [hkept.begun, hkept.stopped_iff, h.dialled]
  success := hsuccess
  stopped := hkept.stopped_iff.trans h.stopped
  reported := by rw [hkept.reported, h.reported]
  once := h.once
  gaveUp := h.gaveUp
  within := by rw [hkept.begun]; exact h.within
  beyond := by
    intro hnever
    rw [hkept.begun]
    refine h.beyond ?_
    rw [Bool.eq_false_iff] at hnever ⊢
    exact mt hkept.success hnever
  last := by rw [hkept.stopped_iff, hkept.begun]; exact h.last

theorem ends (h : Tally plan past dialled gaveUp spent s) {t : Socket T} {healthy : Bool}
    (hunder : s.underWay = some healthy) (hended : Ended now healthy s t)
    (hsuccess : t.status.success = true ↔ true ∈ past ++ [healthy] ∨ t.state = .healthy) :
    Tally plan (past ++ [healthy]) dialled gaveUp spent t := by
  have hbegun : s.begun = 1 := begun_of_underWay (by rw [hunder]; rfl)
  have hlive : s.phase ≠ .stopped := live_of_underWay hunder
  have hwaits : t.phase ≠ .stopped := by rw [hended.phase]; nofun
  have hover : t.begun = 0 := by rw [begun, hended.phase]
  have hcount : (past ++ [healthy]).length + t.begun = past.length + s.begun := by
    rw [hover, hbegun, List.length_append, List.length_singleton]
  have hdialled := h.dialled
  have hnot : ¬(spent ∧ plan.policy = .stop) := mt h.stopped.mpr hlive
  rw [if_neg hlive] at hdialled
  refine ⟨?_, h.reachable, ?_, ?_, hsuccess, ?_, ?_, h.once, h.gaveUp, ?_, ?_, ?_⟩
  · rw [hended.settings, h.planned]
  · rw [hended.connects, hcount, h.connects]
  · rw [if_neg hwaits, hcount]
    exact hdialled
  · exact iff_of_false hwaits hnot
  · rw [hended.reported, h.reported]
  · rw [hcount]
    exact h.within
  · rw [hended.success, hcount]
    exact h.beyond
  · intro hstopped
    exact (hwaits hstopped).elim

/-- The last allowed attempt has failed: what the policy says is said now. -/
theorem begins_fresh (h : Tally plan past dialled gaveUp spent s) (hs : s.Steady)
    (hdue : s.due now = true) {r : Step T} (hbegun : Begun s r)
    (hsuccess : r.1.status.success = true ↔ true ∈ past ∨ r.1.state = .healthy)
    (hfresh : past = List.replicate plan.afterAttempts.toNat false) :
    Tally plan past (dialled + dials r.2) (gaveUp + if s.verdict = .proceed then 0 else 1) True
      r.1 := by
  obtain ⟨hstop, hreport⟩ := h.verdict_of_fresh hs hdue hfresh
  have hunspent := h.not_spent_of_fresh hdue hfresh
  have hconnects := h.connects_of_due hdue
  have hnone := begun_of_due hdue
  have hlimit : past.length = plan.afterAttempts.toNat := by
    rw [hfresh, List.length_replicate]
  have hproceed : s.verdict = .proceed ↔ plan.policy = .never := by
    cases hverdict : s.verdict <;> cases hpolicy : plan.policy <;> simp_all
  have hunsaid : gaveUp = 0 := by
    have honce := h.once
    have hnot : gaveUp ≠ 1 := fun hsaid => hunspent (h.gaveUp.mp hsaid).1
    omega
  have hunreported : s.reported = false := by
    rw [Bool.eq_false_iff]
    intro hsaid
    exact hunspent (h.reported.mp hsaid).1
  have hdialled := h.dialled
  rw [if_neg (live_of_due hdue)] at hdialled
  refine ⟨?_, h.reachable, ?_, ?_, hsuccess, ?_, ?_, ?_, ?_, ?_, fun _ _ => trivial, ?_⟩
  · rw [hbegun.settings, h.planned]
  · rw [hbegun.connects, hbegun.begun, hconnects, UInt32.ofNat_add]
    rfl
  · simp only [hbegun.dials, hbegun.stopped, hbegun.begun]
    split <;> omega
  · rw [hbegun.stopped, hstop, true_and]
  · rw [hbegun.reported, hunreported, Bool.false_or, decide_eq_true_iff, hreport, true_and]
  · rw [hunsaid]
    split <;> decide
  · rw [hunsaid, true_and, ne_eq, ← hproceed]
    by_cases hsilent : s.verdict = .proceed
    · simp [hsilent]
    · simp [hsilent]
  · intro _
    rw [hbegun.begun, hlimit]
    omega
  · intro _
    rw [hbegun.begun, hlimit]

/-- An attempt at another time is begun as any other. -/
theorem begins_stale (h : Tally plan past dialled gaveUp spent s) (hs : s.Steady)
    (hdue : s.due now = true) {r : Step T} (hbegun : Begun s r)
    (hsuccess : r.1.status.success = true ↔ true ∈ past ∨ r.1.state = .healthy)
    (hstale : past ≠ List.replicate plan.afterAttempts.toNat false) :
    Tally plan past (dialled + dials r.2) (gaveUp + if s.verdict = .proceed then 0 else 1) spent
      r.1 := by
  have hproceed := h.verdict_of_stale hs hdue hstale
  have hlive := live_of_due hdue
  have hconnects := h.connects_of_due hdue
  have hnone := begun_of_due hdue
  have hgoes : r.1.phase ≠ .stopped := by
    rw [ne_eq, hbegun.stopped, hproceed]
    nofun
  have hdials : dials r.2 = 1 := by rw [hbegun.dials, hproceed]; rfl
  have hdialled := h.dialled
  rw [if_neg hlive] at hdialled
  rw [if_pos hproceed, hdials, Nat.add_zero]
  refine ⟨?_, h.reachable, ?_, ?_, hsuccess, ?_, ?_, h.once, h.gaveUp, ?_, ?_, ?_⟩
  · rw [hbegun.settings, h.planned]
  · rw [hbegun.connects, hbegun.begun, hconnects, UInt32.ofNat_add]
    rfl
  · rw [if_neg hgoes, hbegun.begun]
    omega
  · exact iff_of_false hgoes (mt h.stopped.mpr hlive)
  · rw [hbegun.reported, hproceed, ← h.reported]
    simp
  · intro hspent
    have hlate := h.within hspent
    rw [hbegun.begun]
    omega
  · intro hnever hlate
    rw [hbegun.success] at hnever
    rw [hbegun.begun] at hlate
    exact h.spent_of_late hs hdue hnever (by omega) hstale
  · intro hstopped
    exact (hgoes hstopped).elim

theorem begins (h : Tally plan past dialled gaveUp spent s) (hs : s.Steady)
    (hdue : s.due now = true) {r : Step T} (hbegun : Begun s r)
    (hsuccess : r.1.status.success = true ↔ true ∈ past ∨ r.1.state = .healthy) :
    Tally plan past (dialled + dials r.2) (gaveUp + if s.verdict = .proceed then 0 else 1)
      (spent ∨ past = List.replicate plan.afterAttempts.toNat false) r.1 := by
  by_cases hfresh : past = List.replicate plan.afterAttempts.toNat false
  · have hnow : (spent ∨ past = List.replicate plan.afterAttempts.toNat false) = True :=
      eq_true (.inr hfresh)
    rw [hnow]
    exact h.begins_fresh hs hdue hbegun hsuccess hfresh
  · have hsame : (spent ∨ past = List.replicate plan.afterAttempts.toNat false) = spent :=
      propext (or_iff_left hfresh)
    rw [hsame]
    exact h.begins_stale hs hdue hbegun hsuccess hfresh

theorem step (h : Tally plan past dialled gaveUp spent s) (hs : s.Steady) (now : Nat)
    (he : e ≠ .cancel) :
    Tally plan (past ++ (s.ended? now e).toList) (dialled + dials (s.step now e).2)
      (gaveUp + giveUps (s.recorded now e))
      (spent ∨ e = .attempt ∧ s.due now = true ∧
        past = List.replicate plan.afterAttempts.toNat false) (s.step now e).1 := by
  have hsuccess := h.success_step hs now he
  cases turn_step s now he with
  | passes early kept silent =>
    have hsame : (spent ∨ e = .attempt ∧ s.due now = true ∧
        past = List.replicate plan.afterAttempts.toNat false) = spent := by
      refine propext (or_iff_left ?_)
      rintro ⟨rfl, hdue, -⟩
      exact nomatch hdue.symm.trans (early rfl)
    rw [ended?_of_kept kept, Option.toList_none, List.append_nil] at hsuccess ⊢
    rw [dials_of_silent silent, giveUps_of_early he early, hsame, Nat.add_zero, Nat.add_zero]
    exact h.passes kept hsuccess
  | begins attempt due next =>
    subst attempt
    rw [ended?_of_due due, Option.toList_none, List.append_nil] at hsuccess ⊢
    rw [next] at hsuccess ⊢
    simp only [giveUps_of_due due, due, true_and]
    exact h.begins hs due (begun_attempt now s) hsuccess
  | @ends healthy hunder other ended silent =>
    have hsame : (spent ∨ e = .attempt ∧ s.due now = true ∧
        past = List.replicate plan.afterAttempts.toNat false) = spent :=
      propext (or_iff_left fun hbegin => other hbegin.1)
    rw [ended?_of_ended hs hunder ended, Option.toList_some] at hsuccess ⊢
    rw [dials_of_silent silent, giveUps_of_early he (absurd · other), hsame, Nat.add_zero,
      Nat.add_zero]
    exact h.ends hunder ended hsuccess

end Tally

theorem tally_run (settings : SocketSettings) (since : Nat)
    (hreachable : settings.giveUp.afterAttempts.toNat + 1 < 2 ^ 32)
    {events : List (Nat × SocketEvent T)} (hkept : ∀ event ∈ events, event.2 ≠ .cancel) :
    let s := start settings since
    Tally settings.giveUp (s.endings events) (dials (s.run events).2) (giveUps (s.history events))
      (s.Spent settings.giveUp.afterAttempts.toNat events) (s.run events).1 := by
  intro s
  induction events using List.reverseRecOn with
  | nil =>
    have hnot := eq_false (not_spent_nil settings.giveUp.afterAttempts.toNat s)
    rw [hnot]
    exact tally_start settings since hreachable
  | append_singleton events event ih =>
    obtain ⟨now, e⟩ := event
    have hbefore := ih fun event hevent => hkept event (List.mem_append_left _ hevent)
    have hlast : e ≠ .cancel := hkept (now, e) (List.mem_append_right _ List.mem_cons_self)
    have hspent := propext (spent_snoc settings.giveUp.afterAttempts.toNat s events now e)
    rw [endings_snoc, run_snoc, history_snoc, giveUps_append, hspent, dials_append]
    exact hbefore.step ((steady_start settings since).run events) now hlast

/-! ## After the end, and after a success -/

section Runs
variable {s : Socket T}

/-- A socket that has stopped refuses frames and does nothing else. -/
theorem stopped_course {now : Nat} {e : SocketEvent T} {r : Step T} (course : Course now s e r)
    (h : s.phase = .stopped) : r.1 = s ∧ dials r.2 = 0 ∧ told r.2 = [] := by
  have hwaits : s.due now ≠ true := fun hdue => live_of_due hdue h
  cases course with
  | idle | refused => exact ⟨rfl, rfl, rfl⟩
  | queued f live | cancelled live => exact (live h).elim
  | begun due => exact (hwaits due).elim
  | opened dialing => nomatch h.symm.trans dialing
  | received connected | written connected | failed connected | pinged connected =>
    nomatch h.symm.trans connected
  | ended underWay => exact (live_of_underWay underWay h).elim

theorem stopped_run (h : s.phase = .stopped) (more : List (Nat × SocketEvent T)) :
    (s.run more).1 = s ∧ dials (s.run more).2 = 0 ∧ told (s.run more).2 = [] := by
  induction more with
  | nil => exact ⟨rfl, rfl, rfl⟩
  | cons event more ih =>
    obtain ⟨now, e⟩ := event
    obtain ⟨hsame, hdials, htold⟩ := stopped_course (course_step now e s) h
    obtain ⟨hrest, hdials', htold'⟩ := ih
    simp only [run, hsame]
    rw [dials_append, told_append, hdials, hdials', htold, htold']
    exact ⟨hrest, rfl, rfl⟩

/-- The policy has nothing to say any more: a connection was healthy, or it never says anything,
or no counter can go beyond its threshold. -/
def Exempt (s : Socket T) : Prop :=
  s.status.success = true ∨ s.settings.giveUp.policy = .never ∨
    s.settings.giveUp.afterAttempts = 4294967295

theorem exempt_start {settings : SocketSettings} (since : Nat)
    (h : settings.giveUp.policy = .never ∨ settings.giveUp.afterAttempts.toNat + 1 = 2 ^ 32) :
    (start (T := T) settings since).Exempt := by
  refine .inr (h.imp_right fun hgreatest => UInt32.toNat_inj.mp ?_)
  exact Nat.succ.inj hgreatest

theorem Exempt.verdict (h : s.Exempt) : s.verdict = .proceed := by
  simp only [Socket.verdict, giveUpAction]
  rcases h with hsuccess | hnever | hgreatest
  · simp [hsuccess]
  · simp [hnever]
  · have hall : s.status.connects + 1 ≤ 4294967295 := by
      rw [UInt32.le_iff_toNat_le]
      exact Nat.le_of_lt_succ (UInt32.toNat_lt _)
    simp [hgreatest, hall]

theorem Exempt.step (h : s.Exempt) (hlive : s.phase ≠ .stopped) (now : Nat) {e : SocketEvent T}
    (he : e ≠ .cancel) :
    giveUps (s.recorded now e) = 0 ∧ (s.step now e).1.Exempt ∧
      (s.step now e).1.phase ≠ .stopped := by
  cases turn_step s now he with
  | passes early kept =>
    refine ⟨giveUps_of_early he early, ?_, by rwa [ne_eq, kept.stopped_iff]⟩
    rw [Exempt, kept.settings]
    exact h.imp_left kept.success
  | begins attempt due next =>
    have hbegun := begun_attempt now s
    subst attempt
    rw [giveUps_of_due due, if_pos h.verdict, next, Exempt, hbegun.success, hbegun.settings, ne_eq,
      hbegun.stopped, h.verdict]
    exact ⟨rfl, h, nofun⟩
  | ends underWay other ended =>
    refine ⟨giveUps_of_early he (absurd · other), ?_, by rw [ended.phase]; nofun⟩
    rw [Exempt, ended.success, ended.settings]
    exact h

theorem Exempt.run (h : s.Exempt) (hlive : s.phase ≠ .stopped)
    {more : List (Nat × SocketEvent T)} (hkept : ∀ event ∈ more, event.2 ≠ .cancel) :
    giveUps (s.history more) = 0 ∧ (s.run more).1.Exempt ∧ (s.run more).1.phase ≠ .stopped := by
  induction more generalizing s with
  | nil => exact ⟨rfl, h, hlive⟩
  | cons event more ih =>
    obtain ⟨now, e⟩ := event
    obtain ⟨he, hrest⟩ := List.forall_mem_cons.mp hkept
    obtain ⟨hsilent, hexempt, hlive'⟩ := h.step hlive now he
    obtain ⟨hsilent', hend⟩ := ih hexempt hlive' hrest
    exact ⟨by rw [history, giveUps_append, hsilent, hsilent'], hend⟩

theorem Exempt.dials (h : s.Exempt) {now : Nat} (hdue : s.due now = true) :
    dials (s.step now .attempt).2 = 1 := by
  rw [step_of_due hdue, (begun_attempt now s).dials, h.verdict]
  rfl

end Runs

/-! ## Giving up in a run -/

theorem givenUp_iff_stopped (settings : SocketSettings) (since : Nat)
    {events : List (Nat × SocketEvent T)} (hkept : ∀ event ∈ events, event.2 ≠ .cancel) :
    let s := ((start settings since).run events).1
    s.state = .givenUp ↔ s.phase = .stopped := by
  intro s
  have hsound := sound_run (sound_start (T := T) settings since) events
  have hopen : s.state ≠ .closed := not_closed_run (s := start settings since) nofun hkept
  constructor
  · intro hstate
    have hended := hsound.stage_eq_ended (.inl hstate)
    cases hphase : s.phase with
    | stopped => rfl
    | starting | dialing | connected | waiting =>
      have hstage := congrArg Phase.stage hphase
      nomatch hstage.symm.trans hended
  · intro hstopped
    exact (hsound.state_of_ended (congrArg Phase.stage hstopped)).resolve_right hopen

/-- A socket gives up, or says so, at most once: before the attempt that follows the last
allowed one, if none of those has become healthy. A threshold that is the greatest count is never
passed, since the count of attempts wraps. -/
theorem gives_up_once (settings : SocketSettings) (since : Nat)
    {events : List (Nat × SocketEvent T)} (hkept : ∀ event ∈ events, event.2 ≠ .cancel) :
    let first := start settings since
    let (s, effects) := first.run events
    let limit := settings.giveUp.afterAttempts.toNat
    s.status.events = (first.history events).rtake ConnectionStatus.eventLimit ∧
    (limit + 1 < 2 ^ 32 → settings.giveUp.policy = .stop →
      (s.state = .givenUp ↔ first.Spent limit events) ∧
      (s.state = .givenUp → dials effects = limit ∧ s.status.connects.toNat = limit + 1 ∧
        giveUps (first.history events) = 1 ∧
        ∀ more, (s.run more).1 = s ∧ dials (s.run more).2 = 0 ∧ told (s.run more).2 = [])) ∧
    (limit + 1 < 2 ^ 32 → settings.giveUp.policy = .notify →
      giveUps (first.history events) ≤ 1 ∧
      (giveUps (first.history events) = 1 ↔ first.Spent limit events) ∧
      (∀ now, s.due now = true → first.endings events = List.replicate limit false →
        let (t, effects) := s.step now .attempt
        giveUps (s.recorded now .attempt) = 1 ∧ t.status.connects.toNat = limit + 1 ∧
          effects = [.published t.status, .dial]) ∧
      (∀ now, s.due now = true → dials (s.step now .attempt).2 = 1)) ∧
    (settings.giveUp.policy = .never ∨ limit + 1 = 2 ^ 32 →
      giveUps (first.history events) = 0 ∧ s.phase ≠ .stopped ∧
      ∀ now, s.due now = true → dials (s.step now .attempt).2 = 1) ∧
    (settings.giveUp.policy ≠ .stop → s.phase ≠ .stopped) ∧
    (s.state = .healthy → ∀ more, (∀ event ∈ more, event.2 ≠ .cancel) →
      giveUps (s.history more) = 0 ∧ (s.run more).1.phase ≠ .stopped) := by
  intro first
  have hsteady := (steady_start (T := T) settings since).run events
  refine ⟨log_run (Nat.zero_le _) events, ?_, ?_, ?_, ?_, ?_⟩
  · intro hreachable hpolicy
    have htally : Tally settings.giveUp (first.endings events) (dials (first.run events).2)
        (giveUps (first.history events)) (first.Spent settings.giveUp.afterAttempts.toNat events)
        (first.run events).1 := tally_run settings since hreachable hkept
    have hended := givenUp_iff_stopped (T := T) settings since hkept
    have hstopped := htally.stopped
    simp only [hpolicy, and_true] at hstopped
    refine ⟨hended.trans hstopped, ?_⟩
    intro hstate
    have hphase := hended.mp hstate
    have hlast := htally.last hphase
    have hconnects := htally.connects
    have hdialled := htally.dialled
    rw [if_pos hphase] at hdialled
    refine ⟨by omega, ?_, ?_, stopped_run hphase⟩
    · rw [hconnects, hlast, UInt32.toNat_ofNat_of_lt' hreachable]
    · refine htally.gaveUp.mpr ⟨hstopped.mp hphase, ?_⟩
      rw [hpolicy]
      nofun
  · intro hreachable hpolicy
    have htally := tally_run settings since hreachable hkept
    refine ⟨htally.once, ?_, ?_, ?_⟩
    · rw [htally.gaveUp, hpolicy]
      simp [first]
    · intro now hdue hpast
      have hreport := (htally.verdict_of_fresh hsteady hdue hpast).2.mpr hpolicy
      have hconnects := htally.connects_of_due hdue
      rw [hpast, List.length_replicate] at hconnects
      rw [step_of_due hdue, giveUps_of_due hdue, hreport, attempt_of_report now hreport]
      refine ⟨rfl, ?_, rfl⟩
      have hnext : UInt32.ofNat settings.giveUp.afterAttempts.toNat + 1 =
          UInt32.ofNat (settings.giveUp.afterAttempts.toNat + 1) := (UInt32.ofNat_add _ 1).symm
      change ((first.run events).1.status.connects + 1).toNat = _
      rw [hconnects, hnext, UInt32.toNat_ofNat_of_lt' hreachable]
    · intro now hdue
      have hgoing := htally.not_stop_of_policy hsteady hdue (by rw [hpolicy]; nofun)
      rw [step_of_due hdue, (begun_attempt now _).dials, if_neg hgoing]
  · intro hsilent
    obtain ⟨hnone, hafter, hlive⟩ := (exempt_start since hsilent).run nofun hkept
    exact ⟨hnone, hlive, fun now hdue => hafter.dials hdue⟩
  · intro hpolicy
    by_cases hreachable : settings.giveUp.afterAttempts.toNat + 1 < 2 ^ 32
    · exact fun hstopped =>
        hpolicy ((tally_run settings since hreachable hkept).stopped.mp hstopped).2
    · have hgreatest : settings.giveUp.afterAttempts.toNat + 1 = 2 ^ 32 := by
        have hword := settings.giveUp.afterAttempts.toNat_lt
        omega
      exact ((exempt_start since (.inr hgreatest)).run nofun hkept).2.2
  · intro hhealthy more hmore
    obtain ⟨c, hphase⟩ := hsteady.connected_of_healthy hhealthy
    have hexempt : Exempt (first.run events).1 := .inl (hsteady.success_of_healthy hhealthy)
    obtain ⟨hnone, -, hlive⟩ := hexempt.run (by rw [hphase]; nofun) hmore
    exact ⟨hnone, hlive⟩

/-- The only attempt that is allowed fails: the socket has dialled once and stops when the
delay is over. -/
theorem gives_up_once_after_one :
    let settings : SocketSettings := { giveUp := { policy := .stop, afterAttempts := 1 } }
    let events : List (Nat × SocketEvent Unit) :=
      [(0, .attempt), (1, .dialFailed "refused"), (2001, .attempt)]
    let (s, effects) := (start settings 0).run events
    s.state = .givenUp ∧ dials effects = 1 ∧ s.status.connects.toNat = 2 ∧
      giveUps ((start settings 0).history events) = 1 ∧
      (s.run [(9000, .attempt)]).1.state = .givenUp := by
  intro settings events
  have hkept : ∀ event ∈ events, event.2 ≠ .cancel := by simp [events]
  have hstate : ((start settings 0).run events).1.state = .givenUp := by decide
  obtain ⟨-, stops, -⟩ := gives_up_once settings 0 hkept
  obtain ⟨-, gaveUp⟩ := stops (by decide) rfl
  obtain ⟨hdials, hconnects, hsaid, hstays⟩ := gaveUp hstate
  have hstay := (hstays [(9000, .attempt)]).1
  exact ⟨hstate, hdials, hconnects, hsaid, (congrArg Socket.state hstay).trans hstate⟩

theorem uncancelled_snoc {events : List (Nat × SocketEvent T)}
    (hkept : ∀ event ∈ events, event.2 ≠ .cancel) (now : Nat) {e : SocketEvent T}
    (he : e ≠ .cancel) : ∀ event ∈ events ++ [(now, e)], event.2 ≠ .cancel := by
  intro event hmem
  rcases List.mem_append.mp hmem with hmem | hmem
  · exact hkept event hmem
  · rw [List.mem_singleton.mp hmem]
    exact he

/-- Attempts may fail as often as one likes. -/
theorem exists_failed_run {settings : SocketSettings} {since : Nat}
    (hexempt : (start (T := T) settings since).Exempt) (n : Nat) :
    ∃ events : List (Nat × SocketEvent T), (∀ event ∈ events, event.2 ≠ .cancel) ∧
      (start settings since).endings events = List.replicate n false ∧
      ∃ now, ((start settings since).run events).1.due now = true := by
  induction n with
  | zero => exact ⟨[], by simp, rfl, since, rfl⟩
  | succ n ih =>
    obtain ⟨events, hkept, hpast, now, hdue⟩ := ih
    have hsteady := (steady_start (T := T) settings since).run events
    obtain ⟨-, hafter, -⟩ := hexempt.run (by simp [start]) hkept
    let refused : SocketEvent T := .dialFailed "refused"
    generalize hs : ((start (T := T) settings since).run events).1 = s at hdue hsteady hafter
    obtain ⟨deadline, hdialing⟩ : ∃ deadline, (s.step now .attempt).1.phase = .dialing deadline := by
      rw [step_of_due hdue, attempt_of_proceed now hafter.verdict]
      exact ⟨_, rfl⟩
    generalize ht : (s.step now .attempt).1 = t at hdialing
    have hsteadyT : t.Steady := ht ▸ hsteady.step now .attempt
    have hwaits : (t.step now refused).1.phase =
        .waiting (now + t.delay (nextFailures false t.failures)) := by
      simp only [refused, step, hdialing]
      rfl
    have hended : t.ended? now refused = some false := by
      have hunder : t.underWay = some false := by rw [underWay, hdialing]
      rw [ended?, hunder, underWay, hwaits, ← hsteadyT.underWay hunder]
      rfl
    refine ⟨events ++ [(now, .attempt)] ++ [(now, refused)], ?_, ?_, ?_⟩
    · have hbegun := uncancelled_snoc (e := .attempt) hkept now (by simp)
      exact uncancelled_snoc (e := refused) hbegun now (by simp [refused])
    · rw [endings_snoc, endings_snoc, run_snoc, hs, ht, hpast, ended?_of_due hdue, hended,
        Option.toList_none, List.append_nil, List.replicate_succ']
      rfl
    · refine ⟨now + t.delay (nextFailures false t.failures), ?_⟩
      rw [run_snoc, run_snoc, hs, ht, due, hwaits]
      exact decide_eq_true le_rfl

/-- As many attempts as a word can count are allowed, and all of them have failed. The next one
makes the counter wrap, and the socket goes on. -/
theorem greatest_threshold_never_passed :
    let settings : SocketSettings := { giveUp := { policy := .stop, afterAttempts := 4294967295 } }
    ∃ events : List (Nat × SocketEvent Unit), (∀ event ∈ events, event.2 ≠ .cancel) ∧
      (start settings 0).Spent 4294967295 events ∧
      ((start settings 0).run events).1.state ≠ .givenUp ∧
      giveUps ((start settings 0).history events) = 0 := by
  intro settings
  have hexempt : (start (T := Unit) settings 0).Exempt := .inr (.inr rfl)
  obtain ⟨events, hkept, hpast, now, hdue⟩ := exists_failed_run hexempt 4294967295
  have hmore := uncancelled_snoc (e := .attempt) hkept now nofun
  obtain ⟨hsilent, -, hlive⟩ := hexempt.run nofun hmore
  refine ⟨events ++ [(now, .attempt)], hmore, ⟨events, now, [], rfl, hdue, hpast⟩, ?_, hsilent⟩
  exact mt (givenUp_iff_stopped settings 0 hmore).mp hlive

end TopicClient.Socket
