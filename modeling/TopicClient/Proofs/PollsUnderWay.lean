import TopicClient.Client.Polls
import TopicClient.Proofs.Entries

/-!
# Polls under way

Posts bear numbers that only grow, and a call never holds the number of a poll.
Arming starts one poll for every listed topic that has none, so the posts that are
polls and the topics in flight stay the same list.
-/

namespace TopicClient

namespace Polling

/-- Arming adds what it starts to the topics in flight. -/
theorem arm_inFlight (cursors : List (String × Int64)) (p : Polling) :
    (p.arm cursors).2 =
      { p with inFlight := p.inFlight ++ (p.arm cursors).1.map Prod.fst } := by
  induction cursors generalizing p with
  | nil => simp [arm]
  | cons e rest ih =>
    obtain ⟨topic, ts⟩ := e
    by_cases h : topic ∈ p.inFlight
    · simp only [arm, if_pos h]
      exact ih p
    · simp only [arm, if_neg h]
      rw [ih]
      simp

theorem arm_covers (cursors : List (String × Int64)) (p : Polling) {topic : String}
    (h : topic ∈ Assoc.keys cursors) : topic ∈ (p.arm cursors).2.inFlight := by
  induction cursors generalizing p with
  | nil => cases h
  | cons e rest ih =>
    obtain ⟨first, ts⟩ := e
    rcases List.mem_cons.mp h with heq | hrest
    · obtain rfl : topic = first := heq
      by_cases hmem : topic ∈ p.inFlight
      · simp only [arm, if_pos hmem]
        rw [arm_inFlight]
        exact List.mem_append_left _ hmem
      · simp only [arm, if_neg hmem]
        rw [arm_inFlight]
        simp
    · by_cases hmem : first ∈ p.inFlight
      · simp only [arm, if_pos hmem]
        exact ih p hrest
      · simp only [arm, if_neg hmem]
        exact ih _ hrest

theorem arm_nodup (cursors : List (String × Int64)) {p : Polling} (h : p.inFlight.Nodup) :
    (p.arm cursors).2.inFlight.Nodup := by
  induction cursors generalizing p with
  | nil => exact h
  | cons e rest ih =>
    obtain ⟨topic, ts⟩ := e
    by_cases hmem : topic ∈ p.inFlight
    · simp only [arm, if_pos hmem]
      exact ih h
    · simp only [arm, if_neg hmem]
      refine ih ?_
      refine List.nodup_append.mpr ⟨h, List.nodup_singleton topic, ?_⟩
      intro t ht u hu heq
      rw [List.mem_singleton] at hu
      exact hmem (hu ▸ heq ▸ ht)

end Polling

/-- The topic that a post polls, if it is a poll. -/
def Purpose.topic? : Purpose → Option String
  | .poll topic _ => some topic
  | _ => none

/-- The topics that are polled by these posts. -/
def polledBy (posts : List (Nat × Purpose)) : List String :=
  posts.filterMap fun e => e.2.topic?

theorem polledBy_append (posts more : List (Nat × Purpose)) :
    polledBy (posts ++ more) = polledBy posts ++ polledBy more :=
  List.filterMap_append

@[simp] theorem polledBy_cons_poll (key : Nat) (topic : String) (ts : Int64)
    (posts : List (Nat × Purpose)) :
    polledBy ((key, .poll topic ts) :: posts) = topic :: polledBy posts := rfl

/-- The posts that are polls. -/
def pollsIn (posts : List (Nat × Purpose)) : List (Nat × Purpose) :=
  posts.filter fun e => e.2.topic?.isSome

@[simp] theorem polledBy_pollsIn (posts : List (Nat × Purpose)) :
    polledBy (pollsIn posts) = polledBy posts := by
  rw [polledBy, pollsIn, List.filterMap_filter]
  refine List.filterMap_congr ?_
  rintro ⟨key, purpose⟩ -
  cases purpose <;> rfl

theorem mem_pollsIn {posts : List (Nat × Purpose)} {key : Nat} {topic : String} {ts : Int64} :
    (key, Purpose.poll topic ts) ∈ pollsIn posts ↔ (key, Purpose.poll topic ts) ∈ posts := by
  simp [pollsIn, Purpose.topic?]

/-- A post that is no poll ends without a trace among the polls. -/
theorem pollsIn_erase {posts : List (Nat × Purpose)} {key : Nat}
    (h : ∀ purpose, (key, purpose) ∈ posts → purpose.topic? = none) :
    pollsIn (Assoc.erase key posts) = pollsIn posts := by
  induction posts with
  | nil => rfl
  | cons e rest ih =>
    obtain ⟨k, purpose⟩ := e
    by_cases hk : k = key
    · subst hk
      simp [Assoc.erase, pollsIn, h purpose (by simp)]
    · have hrest := ih fun purpose hmem => h purpose (by simp [hmem])
      simp only [pollsIn] at hrest ⊢
      simp only [Assoc.erase, if_neg hk, List.filter_cons, hrest]

theorem polledBy_erase {posts : List (Nat × Purpose)} {key : Nat}
    (h : ∀ purpose, (key, purpose) ∈ posts → purpose.topic? = none) :
    polledBy (Assoc.erase key posts) = polledBy posts := by
  rw [← polledBy_pollsIn, pollsIn_erase h, polledBy_pollsIn]

/-- The poll that ends is the only one of its topic. -/
theorem polledBy_erase_poll {posts : List (Nat × Purpose)} {key : Nat} {topic : String}
    {ts : Int64} (h : Assoc.find? key posts = some (.poll topic ts))
    (once : (polledBy posts).Nodup) :
    polledBy (Assoc.erase key posts) = (polledBy posts).erase topic := by
  induction posts with
  | nil => cases h
  | cons e rest ih =>
    obtain ⟨k, purpose⟩ := e
    by_cases hk : k = key
    · obtain rfl : purpose = .poll topic ts := by simpa [Assoc.find?, hk] using h
      simp [Assoc.erase, hk]
    · have hfound : Assoc.find? key rest = some (.poll topic ts) := by
        simpa [Assoc.find?, hk] using h
      have hmem : topic ∈ polledBy rest :=
        List.mem_filterMap.mpr ⟨_, Assoc.mem_of_find? hfound, rfl⟩
      cases htopic : purpose.topic? with
      | none =>
        have hhead : ∀ ps, polledBy ((k, purpose) :: ps) = polledBy ps := by
          intro ps
          simp [polledBy, htopic]
        rw [hhead] at once ⊢
        simp only [Assoc.erase, if_neg hk, hhead]
        exact ih hfound once
      | some other =>
        have hhead : ∀ ps, polledBy ((k, purpose) :: ps) = other :: polledBy ps := by
          intro ps
          simp [polledBy, htopic]
        rw [hhead] at once ⊢
        obtain ⟨fresh, honce⟩ := List.nodup_cons.mp once
        have hne : other ≠ topic := fun heq => fresh (heq ▸ hmem)
        simp only [Assoc.erase, if_neg hk, hhead]
        rw [ih hfound honce, List.erase_cons_tail (by simpa using hne)]

/-- The posts of polls that start one after the other. -/
def pollPosts (last : Nat) : List (String × Int64) → List (Nat × Purpose)
  | [] => []
  | (topic, ts) :: rest => (last + 1, .poll topic ts) :: pollPosts (last + 1) rest

theorem polledBy_pollPosts (last : Nat) (cursors : List (String × Int64)) :
    polledBy (pollPosts last cursors) = cursors.map Prod.fst := by
  induction cursors generalizing last with
  | nil => rfl
  | cons e rest ih =>
    obtain ⟨topic, ts⟩ := e
    simp [pollPosts, ih]

theorem key_pollPosts {last : Nat} {cursors : List (String × Int64)} {e : Nat × Purpose}
    (h : e ∈ pollPosts last cursors) : last < e.1 ∧ e.1 ≤ last + cursors.length := by
  induction cursors generalizing last with
  | nil => cases h
  | cons c rest ih =>
    obtain ⟨topic, ts⟩ := c
    rcases List.mem_cons.mp h with rfl | hrest
    · simp
    · have hbound := ih hrest
      simp only [List.length_cons]
      omega

theorem distinct_pollPosts (last : Nat) (cursors : List (String × Int64)) :
    Assoc.Distinct (pollPosts last cursors) := by
  induction cursors generalizing last with
  | nil => exact List.nodup_nil
  | cons c rest ih =>
    obtain ⟨topic, ts⟩ := c
    refine Assoc.distinct_cons.mpr ⟨?_, ih (last + 1)⟩
    intro hmem
    obtain ⟨e, he, heq⟩ := List.mem_map.mp hmem
    have hbound := key_pollPosts he
    simp only at heq
    omega

namespace Client
variable {H W : Type}

theorem polled_eq (c : Client H W) : c.polled = polledBy c.posts := by
  refine List.filterMap_congr ?_
  rintro ⟨key, purpose⟩ -
  cases purpose <;> rfl

/-- Posts have numbers of their own, none above the last, and no call holds the number
of a poll. -/
structure Numbered (c : Client H W) : Prop where
  distinct : Assoc.Distinct c.posts
  bounded : ∀ e ∈ c.posts, e.1 ≤ c.lastPost
  calls : ∀ e ∈ c.calls, ∀ key, e.2.post = some key →
    key ≤ c.lastPost ∧ ∀ purpose, (key, purpose) ∈ c.posts → purpose.topic? = none

theorem Numbered.congr {c d : Client H W} (h : c.Numbered) (hposts : d.posts = c.posts)
    (hlast : d.lastPost = c.lastPost) (hcalls : d.calls = c.calls) : d.Numbered where
  distinct := by
    rw [hposts]
    exact h.distinct
  bounded := by
    rw [hposts, hlast]
    exact h.bounded
  calls := by
    rw [hcalls, hposts, hlast]
    exact h.calls

theorem numbered_start (settings : Settings) (surroundings : W) (now : Nat) :
    (start (H := H) settings surroundings now).Numbered :=
  ⟨List.nodup_nil, nofun, nofun⟩

theorem forEach_poll (cursors : List (String × Int64)) (c : Client H W) :
    (forEach poll cursors c).1 =
      { c with
        posts := c.posts ++ pollPosts c.lastPost cursors
        lastPost := c.lastPost + cursors.length } := by
  induction cursors generalizing c with
  | nil => simp [forEach, pollPosts]
  | cons e rest ih =>
    obtain ⟨topic, ts⟩ := e
    simp only [forEach, Step.andThen, ih, poll, post, pollPosts, List.length_cons]
    simp [Nat.add_comm, Nat.add_left_comm]

/-- Arming starts polls and does nothing else. -/
theorem arm_eq (cursors : Cursors) (c : Client H W) :
    (c.arm cursors).1 =
      { c with
        supervisor :=
          { c.supervisor with polling := (c.supervisor.polling.arm cursors.entries).2 }
        posts := c.posts ++
          pollPosts c.lastPost (c.supervisor.polling.arm cursors.entries).1
        lastPost := c.lastPost + (c.supervisor.polling.arm cursors.entries).1.length } :=
  forEach_poll _ _

theorem Numbered.arm {c : Client H W} (hc : c.Numbered) (cursors : Cursors) :
    (c.arm cursors).1.Numbered := by
  rw [arm_eq]
  refine ⟨?_, ?_, ?_⟩
  · rw [Assoc.Distinct, Assoc.keys_append]
    refine List.nodup_append.mpr ⟨hc.distinct, distinct_pollPosts _ _, ?_⟩
    intro k hk j hj heq
    obtain ⟨e, he, rfl⟩ := List.mem_map.mp hk
    obtain ⟨e', he', rfl⟩ := List.mem_map.mp hj
    have hold := hc.bounded e he
    have hnew := (key_pollPosts he').1
    omega
  · intro e he
    dsimp only at he ⊢
    rcases List.mem_append.mp he with he | he
    · have hold := hc.bounded e he
      omega
    · exact (key_pollPosts he).2
  · intro e he key hkey
    obtain ⟨hbound, hother⟩ := hc.calls e he key hkey
    refine ⟨Nat.le_add_right_of_le hbound, ?_⟩
    intro purpose hmem
    rcases List.mem_append.mp hmem with hmem | hmem
    · exact hother purpose hmem
    · have hnew := (key_pollPosts hmem).1
      dsimp only at hnew
      omega

/-- The topics that have a poll are those in flight, each once. -/
structure Paired (c : Client H W) : Prop where
  inFlight : c.polled = c.supervisor.polling.inFlight
  once : c.polled.Nodup

theorem Paired.arm {c : Client H W} (hc : c.Paired) (cursors : Cursors) :
    (c.arm cursors).1.Paired := by
  have hflight : (c.arm cursors).1.polled =
      (c.supervisor.polling.arm cursors.entries).2.inFlight := by
    have hpolled := hc.inFlight
    rw [polled_eq] at hpolled
    rw [polled_eq, arm_eq, Polling.arm_inFlight, ← hpolled]
    dsimp only
    rw [polledBy_append, polledBy_pollPosts]
  constructor
  · rw [hflight, arm_eq]
  · rw [hflight]
    exact Polling.arm_nodup _ (hc.inFlight ▸ hc.once)

/-- After arming every listed topic has a poll. -/
theorem arm_polls {c : Client H W} (hc : c.Paired) {cursors : Cursors} {topic : String}
    (h : topic ∈ cursors.topics) : topic ∈ (c.arm cursors).1.polled := by
  rw [(hc.arm cursors).inFlight, arm_eq]
  exact Polling.arm_covers _ _ h

end Client

end TopicClient
