import TopicClient.Transport.Socket

/-!
# What a socket reports

Whoever has heard all statuses of a socket that was not cancelled never believes a
connection to be healthy that is lost: no connection ends without a status that
says so.
-/

namespace TopicClient.Socket
variable {T : Type}

/-- The statuses among the effects. -/
def told (effects : List (SocketEffect T)) : List ConnectionStatus :=
  effects.filterMap fun
    | .published status => some status
    | _ => none

theorem told_append (effects more : List (SocketEffect T)) :
    told (effects ++ more) = told effects ++ told more :=
  List.filterMap_append

theorem told_cons (e : SocketEffect T) (effects : List (SocketEffect T)) :
    told (e :: effects) = told [e] ++ told effects :=
  told_append [e] effects

theorem isConnected_iff (s : Socket T) : s.isConnected = true ↔ ∃ c, s.phase = .connected c := by
  rw [isConnected]
  split
  next c hphase => simp [hphase]
  next hphase => simpa using fun c => hphase c

/-- If the last status that a step tells is that of a connection, there is one; and a
step that tells nothing loses no connection. -/
def Honest (s : Socket T) (r : Step T) : Prop :=
  (told r.2).getLast?.elim (s.isConnected = true → r.1.isConnected = true)
    fun status => status.connected = true → r.1.isConnected = true

theorem honest_silent {s : Socket T} {r : Step T} (htold : told r.2 = [])
    (h : s.isConnected = true → r.1.isConnected = true) : s.Honest r := by
  rw [Honest, htold]
  exact h

theorem honest_disconnected {s : Socket T} {r : Step T} {status : ConnectionStatus}
    (htold : told r.2 = [status]) (h : status.connected = false) : s.Honest r := by
  rw [Honest, htold]
  exact fun hconnected => absurd (h.symm.trans hconnected) nofun

theorem honest_retreat (s t : Socket T) (now : Nat) (healthy : Bool) :
    s.Honest (t.retreat now healthy) :=
  honest_disconnected rfl rfl

theorem told_finish (final : SocketState) (s : Socket T) : told (s.finish final).2 = [] := by
  simp [finish, told]

theorem honest_attempt {s : Socket T} (h : s.isConnected = false) (now : Nat) :
    s.Honest (s.attempt now) := by
  have hlost : ((s.status.beginAttempt now).note now "giveUp").connected = false := rfl
  simp only [attempt]
  split
  · exact honest_silent rfl (by simp [h])
  · exact honest_disconnected rfl hlost
  · refine honest_disconnected ?_ hlost
    rw [told_cons, told_finish]
    rfl

theorem honest_received (s : Socket T) (now : Nat) (isPong : Bool) (c : Connection) :
    s.Honest (s.received now isPong c) := by
  rw [received]
  split
  · exact fun _ => rfl
  · exact honest_silent rfl fun h => h

theorem honest_write (s : Socket T) (now : Nat) (fault : Option String) (c : Connection) :
    s.Honest (s.write now fault c) := by
  simp only [write]
  split
  · exact honest_silent rfl fun h => h
  · exact honest_silent rfl fun h => h
  · exact honest_retreat s _ now c.healthy

theorem honest_ping (s : Socket T) (now : Nat) (fault : Option String) (c : Connection) :
    s.Honest (s.ping now fault c) := by
  simp only [ping]
  cases fault with
  | none => exact honest_silent rfl fun _ => rfl
  | some text => exact honest_retreat s _ now c.healthy

/-- Every step is honest but that of a cancelled socket, which goes without a word. -/
theorem honest_step (s : Socket T) (now : Nat) {e : SocketEvent T} (h : e ≠ .cancel) :
    s.Honest (s.step now e) := by
  have hidle : s.Honest (s, []) := honest_silent rfl fun h => h
  simp only [step]
  split
  · split
    · exact honest_silent rfl fun h => h
    · exact honest_silent rfl fun h => h
  · exact honest_attempt (by simp [isConnected, *]) now
  · split
    · exact honest_attempt (by simp [isConnected, *]) now
    · exact hidle
  · exact honest_silent rfl fun _ => rfl
  · exact honest_retreat s _ now _
  · split
    · exact honest_retreat s _ now _
    · exact hidle
  · exact honest_received s now _ _
  · exact honest_write s now _ _
  · split
    · exact honest_ping s now _ _
    · exact hidle
  · split
    · exact honest_retreat s _ now _
    · exact hidle
  · exact honest_retreat s _ now _
  · exact honest_retreat s _ now _
  · exact absurd rfl h
  · exact absurd rfl h
  · exact absurd rfl h
  · exact hidle

end TopicClient.Socket
