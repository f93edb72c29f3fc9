import Demonstrator.Java.Util.ConfigUtils
import Demonstrator.Transition.Runs

namespace LogSender

open Transition

/-- The connections of a `LogsToTCP`, numbered as they are made. A writer is known by the connection of its stream,
    and `opened` has the connections that have not been closed. -/
structure Sender where
  logstashHost : Option String
  logstashPort : Int32
  socket : Option Nat
  writer : Option Nat
  opened : List Nat
  made : Nat
  deriving DecidableEq, Repr

structure Properties where
  host : Option String
  port : Option String
  deriving DecidableEq, Repr

/-- What goes well in a call of `logged`: the connection, its output stream, the rest of the `try` block, and the
    close of the old stream. -/
structure Attempt where
  connects : Bool
  streams : Bool
  completes : Bool
  closes : Bool
  deriving DecidableEq, Repr

inductive Call where
  | logged (attempt : Attempt)
  | updated (properties : Option Properties) (closes : Bool)
  | stop (closes : Bool)
  deriving DecidableEq, Repr

namespace Sender

def initial : Sender := ⟨none, -1, none, none, [], 0⟩

def setConfiguration (s : Sender) (host : Option String) (port : Int32) : Sender :=
  { s with logstashHost := host, logstashPort := port }

def close (connection : Option Nat) (opened : List Nat) : List Nat := opened.filter fun c => some c ≠ connection

/-- A writer does not throw when its stream cannot be closed, so that the socket is closed in any case. -/
def cleanup (s : Sender) (closes : Bool) : Sender :=
  { s with
    socket := none
    writer := none
    opened := close s.socket (if closes then close s.writer s.opened else s.opened) }

/-- The constructor of `Socket` refuses a port that is out of range. -/
def Connects (s : Sender) (attempt : Attempt) : Prop :=
  attempt.connects = true ∧ 0 ≤ s.logstashPort ∧ s.logstashPort ≤ 65535

instance (s : Sender) (attempt : Attempt) : Decidable (s.Connects attempt) := inferInstanceAs (Decidable (_ ∧ _))

def getWriter (s : Sender) (attempt : Attempt) : Sender :=
  if s.Connects attempt then
    let connected := { s with socket := some s.made, opened := s.made :: s.opened, made := s.made + 1 }
    if attempt.streams then { connected with writer := some s.made } else connected.cleanup attempt.closes
  else s.cleanup attempt.closes

def logged (s : Sender) (attempt : Attempt) : Sender :=
  let t := s.getWriter attempt
  if t.writer = none then t
  else if attempt.completes then t
  else t.cleanup attempt.closes

def updated (s : Sender) (properties : Option Properties) (closes : Bool) : Sender :=
  match properties with
  | none => (s.setConfiguration none (-1)).cleanup closes
  | some ⟨some host, some port⟩ =>
    match ConfigUtils.parseInt port with
    | some port => s.setConfiguration (some host) port
    | none => s
  | some _ => s

def perform (s : Sender) : Call → Sender
  | .logged attempt => s.logged attempt
  | .updated properties closes => s.updated properties closes
  | .stop closes => s.cleanup closes

def step (s : Sender) (call : Call) : Option Sender := some (s.perform call)

def AtMostOne (_ : Sender) (call : Call) (t : Sender) : Prop :=
  t.opened.length ≤ 1 ∧ ∀ closes, call = .stop closes → t.opened = []

/-- A connection is made only when none is held, or when both are given up at once: the new one has no output
    stream, and the old stream can be closed. -/
def ConnectsAlone (s : Sender) : Call → Prop
  | .logged attempt =>
    s.Connects attempt → s.socket = none ∨ attempt.streams = false ∧ attempt.closes = true
  | _ => True

instance (s : Sender) : DecidablePred (ConnectsAlone s)
  | .logged _ => inferInstanceAs (Decidable (_ → _))
  | .updated _ _ | .stop _ => isTrue True.intro

structure Holds (s : Sender) : Prop where
  opened : s.opened = s.socket.toList
  writer : s.writer = s.socket
  known : ∀ c ∈ s.opened, c < s.made

def Leaks (s : Sender) : Prop := ∃ c ∈ s.opened, s.socket ≠ some c ∧ s.writer ≠ some c ∧ c < s.made

theorem holds_initial : Holds initial := ⟨rfl, rfl, fun _ member => absurd member List.not_mem_nil⟩

@[simp] theorem mem_close {connection : Option Nat} {opened : List Nat} {c : Nat} :
    c ∈ close connection opened ↔ c ∈ opened ∧ some c ≠ connection := by
  simp [close]

section Calls

variable {s : Sender}

theorem mem_cleanup {closes : Bool} {c : Nat} : c ∈ (s.cleanup closes).opened ↔
    c ∈ s.opened ∧ some c ≠ s.socket ∧ (closes = true → some c ≠ s.writer) := by
  cases closes
  · simp [cleanup]
  · simp [cleanup, and_comm, and_left_comm]

theorem holds_cleanup {closes : Bool}
    (referred : ∀ c ∈ s.opened, s.socket = some c ∨ closes = true ∧ s.writer = some c) : Holds (s.cleanup closes) := by
  have empty : (s.cleanup closes).opened = [] := by
    apply List.eq_nil_iff_forall_not_mem.mpr
    intro c member
    obtain ⟨still, other, stream⟩ := mem_cleanup.mp member
    rcases referred c still with socket | ⟨closed, writer⟩
    · exact other socket.symm
    · exact stream closed writer.symm
  refine ⟨empty, rfl, fun c member => ?_⟩
  rw [empty] at member
  cases member

theorem Holds.mem {c : Nat} (holds : Holds s) (member : c ∈ s.opened) : s.socket = some c := by
  rw [holds.opened] at member
  exact Option.mem_toList.mp member

theorem Holds.cleanup (holds : Holds s) (closes : Bool) : Holds (s.cleanup closes) :=
  holds_cleanup fun _ member => .inl (holds.mem member)

theorem logged_of_not_connects {attempt : Attempt} (refused : ¬ s.Connects attempt) :
    s.logged attempt = s.cleanup attempt.closes := by
  simp [logged, getWriter, refused, Sender.cleanup]

def connected (s : Sender) : Sender :=
  { s with socket := some s.made, opened := s.made :: s.opened, made := s.made + 1 }

theorem logged_of_connects {attempt : Attempt} (connects : s.Connects attempt) :
    s.logged attempt =
      if attempt.streams = true then
        if attempt.completes = true then { s.connected with writer := some s.made }
        else { s.connected with writer := some s.made }.cleanup attempt.closes
      else s.connected.cleanup attempt.closes := by
  by_cases streams : attempt.streams = true
  · simp [logged, getWriter, connects, streams, connected]
  · simp [logged, getWriter, connects, streams, connected, Sender.cleanup]

theorem holds_logged {attempt : Attempt} (holds : Holds s) (alone : ConnectsAlone s (.logged attempt)) :
    Holds (s.logged attempt) := by
  by_cases connects : s.Connects attempt
  · rw [logged_of_connects connects]
    rcases alone connects with none | ⟨streamless, closes⟩
    · have empty : s.opened = [] := by
        rw [holds.opened, none]
        rfl
      split
      · split
        · refine ⟨?_, rfl, ?_⟩
          · simp [connected, empty]
          · simp [connected, empty]
        · apply holds_cleanup
          simp [connected, empty]
      · apply holds_cleanup
        simp [connected, empty]
    · rw [if_neg (by simp [streamless])]
      apply holds_cleanup
      intro c member
      rcases List.mem_cons.mp member with rfl | old
      · exact .inl rfl
      · exact .inr ⟨closes, holds.writer.trans (holds.mem old)⟩
  · rw [logged_of_not_connects connects]
    exact holds.cleanup attempt.closes

theorem holds_step (s : Sender) (call : Call) (t : Sender) (holds : Holds s) (alone : ConnectsAlone s call)
    (h : step s call = some t) : Holds t := by
  cases h
  cases call with
  | logged attempt => exact holds_logged holds alone
  | updated properties closes =>
    simp only [perform, updated]
    split
    · have kept : Holds (s.setConfiguration none (-1)) := ⟨holds.opened, holds.writer, holds.known⟩
      exact kept.cleanup closes
    · split
      · exact ⟨holds.opened, holds.writer, holds.known⟩
      · exact holds
    · exact holds
  | stop closes => exact holds.cleanup closes

theorem leaks_cleanup {c : Nat} {closes : Bool} (member : c ∈ s.opened) (socket : s.socket ≠ some c)
    (writer : closes = true → s.writer ≠ some c) (known : c < s.made) : Leaks (s.cleanup closes) := by
  have none : Option.none ≠ some c := (Option.some_ne_none c).symm
  exact ⟨c, mem_cleanup.mpr ⟨member, Ne.symm socket, fun closed => Ne.symm (writer closed)⟩, none, none, known⟩

theorem Leaks.cleanup (leaks : Leaks s) (closes : Bool) : Leaks (s.cleanup closes) := by
  obtain ⟨c, member, socket, writer, known⟩ := leaks
  exact leaks_cleanup member socket (fun _ => writer) known

theorem Leaks.connected (leaks : Leaks s) : Leaks s.connected ∧ Leaks { s.connected with writer := some s.made } := by
  obtain ⟨c, member, socket, writer, known⟩ := leaks
  have fresh : some s.made ≠ some c := by
    intro same
    cases same
    exact absurd known (Nat.lt_irrefl _)
  have later : c < s.made + 1 := Nat.lt_succ_of_lt known
  exact ⟨⟨c, List.mem_cons_of_mem _ member, fresh, writer, later⟩, c, List.mem_cons_of_mem _ member, fresh, fresh, later⟩

theorem leaks_step (s : Sender) (call : Call) (t : Sender) (leaks : Leaks s) (h : step s call = some t) : Leaks t := by
  cases h
  cases call with
  | logged attempt =>
    simp only [perform]
    by_cases connects : s.Connects attempt
    · rw [logged_of_connects connects]
      split
      · split
        · exact leaks.connected.2
        · exact leaks.connected.2.cleanup attempt.closes
      · exact leaks.connected.1.cleanup attempt.closes
    · rw [logged_of_not_connects connects]
      exact leaks.cleanup attempt.closes
  | updated properties closes =>
    simp only [perform, updated]
    split
    · have kept : Leaks (s.setConfiguration none (-1)) := leaks
      exact kept.cleanup closes
    · split
      · exact leaks
      · exact leaks
    · exact leaks
  | stop closes => exact leaks.cleanup closes

theorem leaks_of_second {attempt : Attempt} (holds : Holds s) (second : ¬ ConnectsAlone s (.logged attempt)) :
    Leaks (s.logged attempt) := by
  obtain ⟨connects, held⟩ := Classical.not_imp.mp second
  obtain ⟨present, kept⟩ := not_or.mp held
  obtain ⟨old, socket⟩ := Option.ne_none_iff_exists'.mp present
  have member : old ∈ s.opened := by
    rw [holds.opened, socket]
    exact List.mem_singleton_self old
  have known := holds.known old member
  have fresh : some s.made ≠ some old := by
    intro same
    cases same
    exact absurd known (Nat.lt_irrefl _)
  have leaked : Leaks { s.connected with writer := some s.made } :=
    ⟨old, List.mem_cons_of_mem _ member, fresh, fresh, Nat.lt_succ_of_lt known⟩
  rw [logged_of_connects connects]
  split
  · split
    · exact leaked
    · exact leaked.cleanup attempt.closes
  · rename_i streamless
    have stays : attempt.closes = false := by simpa [streamless] using kept
    refine leaks_cleanup (List.mem_cons_of_mem _ member) fresh ?_ (Nat.lt_succ_of_lt known)
    intro closes
    cases stays.symm.trans closes

end Calls

theorem Holds.atMostOne {s t : Sender} {call : Call} (holds : Holds s) (alone : ConnectsAlone s call)
    (h : step s call = some t) : AtMostOne s call t := by
  constructor
  · rw [(holds_step s call t holds alone h).opened]
    cases t.socket <;> simp
  · rintro closes rfl
    cases h
    exact (holds.cleanup closes).opened

theorem Leaks.not_atMostOne {s : Sender} (leaks : Leaks s) (closes : Bool) :
    ¬ AtMostOne s (.stop closes) (s.perform (.stop closes)) := by
  intro one
  obtain ⟨c, member, _⟩ := leaks.cleanup closes
  have none := one.2 closes rfl
  rw [perform] at none
  rw [none] at member
  cases member

theorem leaks_run {s : Sender} (leaks : Leaks s) (calls : List Call) (closes : Bool) :
    ¬ Along step AtMostOne s (calls ++ [.stop closes]) := by
  induction calls generalizing s with
  | nil =>
    intro along
    exact leaks.not_atMostOne closes (along _ rfl).1
  | cons call rest ih =>
    intro along
    exact ih (leaks_step s call _ leaks rfl) (along _ rfl).2

theorem along_of_meets {s : Sender} (holds : Holds s) {calls : List Call} (meets : Meets step ConnectsAlone s calls) :
    Along step AtMostOne s calls := by
  induction calls generalizing s with
  | nil => exact True.intro
  | cons call rest ih =>
    intro next taken
    refine ⟨holds.atMostOne meets.1 taken, ?_⟩
    exact ih (holds_step s call next holds meets.1 taken) (meets.2 next taken)

theorem meets_of_along {s : Sender} (holds : Holds s) {calls : List Call} {closes : Bool}
    (along : Along step AtMostOne s (calls ++ [.stop closes])) : Meets step ConnectsAlone s calls := by
  induction calls generalizing s with
  | nil => exact True.intro
  | cons call rest ih =>
    have alone : ConnectsAlone s call := by
      by_contra second
      cases call with
      | logged attempt => exact leaks_run (leaks_of_second holds second) rest closes (along _ rfl).2
      | updated properties closes => exact second True.intro
      | stop closes => exact second True.intro
    exact meets_cons alone rfl (ih (holds_step s call _ holds alone rfl) (along _ rfl).2)

/-- One connection at most, in every run that does not make a second one; and a run that does has one left when the
    sender is stopped. -/
theorem one_connection (calls : List Call) :
    (Meets step ConnectsAlone initial calls → Along step AtMostOne initial calls) ∧
      ∀ closes, Along step AtMostOne initial (calls ++ [.stop closes]) ↔ Meets step ConnectsAlone initial calls := by
  refine ⟨along_of_meets holds_initial, fun closes => ⟨meets_of_along holds_initial, fun meets => ?_⟩⟩
  exact along_of_meets holds_initial (meets_snoc meets fun _ => True.intro)

def succeeds : Attempt := ⟨true, true, true, true⟩

def twoEntries : List Call := [.updated (some ⟨some "logstash", some "5000"⟩) true, .logged succeeds, .logged succeeds]

theorem two_connections :
    ((exec step initial twoEntries).map Sender.opened = some [1, 0] ∧ ¬ Along step AtMostOne initial twoEntries) ∧
      (exec step initial (twoEntries ++ [.stop true])).map Sender.opened = some [0] := by
  refine ⟨⟨by decide, fun along => ?_⟩, by decide⟩
  have both := ((along _ rfl).2 _ rfl).2 _ rfl
  exact absurd both.1.1 (by decide)

end Sender

end LogSender
