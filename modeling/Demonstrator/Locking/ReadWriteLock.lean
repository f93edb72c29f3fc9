import Mathlib.Data.Finset.Basic
import Mathlib.Logic.Function.Basic

namespace Locking

/-- A read-write lock: any number of readers or one writer. -/
structure ReadWriteLock (Reader Writer : Type) where
  readers : Finset Reader
  writer : Option Writer
  exclusive : writer.isSome → readers = ∅

namespace ReadWriteLock

variable {Reader Writer : Type} {lock next : ReadWriteLock Reader Writer}
  {reader : Reader} {writer : Writer}

def free : ReadWriteLock Reader Writer := ⟨∅, none, fun _ => rfl⟩

def acquireRead [DecidableEq Reader] (lock : ReadWriteLock Reader Writer) (reader : Reader) :
    Option (ReadWriteLock Reader Writer) :=
  if lock.writer = none ∧ reader ∉ lock.readers then
    some ⟨insert reader lock.readers, none, fun taken => by cases taken⟩
  else none

def releaseRead [DecidableEq Reader] (lock : ReadWriteLock Reader Writer) (reader : Reader) :
    Option (ReadWriteLock Reader Writer) :=
  if reader ∈ lock.readers then
    some ⟨lock.readers.erase reader, lock.writer, fun taken => by rw [lock.exclusive taken]; rfl⟩
  else none

def acquireWrite [DecidableEq Reader] (lock : ReadWriteLock Reader Writer) (writer : Writer) :
    Option (ReadWriteLock Reader Writer) :=
  if lock.writer = none ∧ lock.readers = ∅ then some ⟨∅, some writer, fun _ => rfl⟩ else none

def releaseWrite [DecidableEq Writer] (lock : ReadWriteLock Reader Writer) (writer : Writer) :
    Option (ReadWriteLock Reader Writer) :=
  if lock.writer = some writer then some ⟨lock.readers, none, fun taken => by cases taken⟩ else none

theorem acquireRead_some [DecidableEq Reader] (taken : lock.acquireRead reader = some next) :
    lock.writer = none ∧ next.readers = insert reader lock.readers ∧ next.writer = none := by
  rw [acquireRead] at taken
  split at taken
  · rename_i idle
    cases taken
    exact ⟨idle.1, rfl, rfl⟩
  · cases taken

theorem releaseRead_some [DecidableEq Reader] (left : lock.releaseRead reader = some next) :
    next.readers = lock.readers.erase reader ∧ next.writer = lock.writer := by
  rw [releaseRead] at left
  split at left
  · cases left
    exact ⟨rfl, rfl⟩
  · cases left

theorem acquireWrite_some [DecidableEq Reader] (taken : lock.acquireWrite writer = some next) :
    lock.writer = none ∧ next.readers = lock.readers ∧ next.writer = some writer := by
  rw [acquireWrite] at taken
  split at taken
  · rename_i idle
    cases taken
    exact ⟨idle.1, idle.2.symm, rfl⟩
  · cases taken

theorem releaseWrite_some [DecidableEq Writer] (left : lock.releaseWrite writer = some next) :
    lock.writer = some writer ∧ next.readers = lock.readers ∧ next.writer = none := by
  rw [releaseWrite] at left
  split at left
  · rename_i held
    cases left
    exact ⟨held, rfl, rfl⟩
  · cases left

def Reads (inside : Reader → Prop) (lock : ReadWriteLock Reader Writer) : Prop :=
  ∀ reader, inside reader → reader ∈ lock.readers

def Writes (inside : Writer → Prop) (lock : ReadWriteLock Reader Writer) : Prop :=
  ∀ writer, inside writer → lock.writer = some writer

section Readers

variable {inside later : Reader → Prop}

theorem Reads.acquireRead [DecidableEq Reader] (reads : Reads inside lock)
    (taken : lock.acquireRead reader = some next)
    (others : ∀ other, other ≠ reader → later other → inside other) : Reads later next := by
  intro other section'
  rw [(acquireRead_some taken).2.1, Finset.mem_insert]
  by_cases same : other = reader
  · exact .inl same
  · exact .inr (reads other (others other same section'))

theorem Reads.releaseRead [DecidableEq Reader] (reads : Reads inside lock)
    (left : lock.releaseRead reader = some next)
    (outside : ¬ later reader) (others : ∀ other, other ≠ reader → later other → inside other) :
    Reads later next := by
  intro other section'
  have same : other ≠ reader := by
    intro same
    exact outside (same ▸ section')
  rw [(releaseRead_some left).1, Finset.mem_erase]
  exact ⟨same, reads other (others other same section')⟩

theorem Reads.acquireWrite [DecidableEq Reader] (reads : Reads inside lock)
    (taken : lock.acquireWrite writer = some next) :
    Reads inside next := by
  intro other section'
  rw [(acquireWrite_some taken).2.1]
  exact reads other section'

theorem Reads.releaseWrite [DecidableEq Writer] (reads : Reads inside lock)
    (left : lock.releaseWrite writer = some next) :
    Reads inside next := by
  intro other section'
  rw [(releaseWrite_some left).2.1]
  exact reads other section'

theorem Reads.excluded (reads : Reads inside lock) (writing : lock.writer = some writer) (other : Reader) :
    ¬ inside other := by
  intro section'
  have present := reads other section'
  rw [lock.exclusive (by simp [writing])] at present
  exact absurd present (Finset.notMem_empty other)

end Readers

section Writers

variable {inside later : Writer → Prop}

theorem Writes.acquireRead [DecidableEq Reader] (writes : Writes inside lock)
    (taken : lock.acquireRead reader = some next) :
    Writes inside next := by
  intro other section'
  have held := writes other section'
  rw [(acquireRead_some taken).1] at held
  cases held

theorem Writes.releaseRead [DecidableEq Reader] (writes : Writes inside lock)
    (left : lock.releaseRead reader = some next) :
    Writes inside next := by
  intro other section'
  rw [(releaseRead_some left).2]
  exact writes other section'

theorem Writes.acquireWrite [DecidableEq Reader] (writes : Writes inside lock)
    (taken : lock.acquireWrite writer = some next)
    (others : ∀ other, other ≠ writer → later other → inside other) : Writes later next := by
  obtain ⟨idle, _, held⟩ := acquireWrite_some taken
  intro other section'
  by_cases same : other = writer
  · rw [held, same]
  · have earlier := writes other (others other same section')
    rw [idle] at earlier
    cases earlier

theorem Writes.releaseWrite [DecidableEq Writer] (writes : Writes inside lock)
    (left : lock.releaseWrite writer = some next)
    (outside : ¬ later writer) (others : ∀ other, other ≠ writer → later other → inside other) :
    Writes later next := by
  intro other section'
  have same : other ≠ writer := by
    intro same
    exact outside (same ▸ section')
  have earlier := writes other (others other same section')
  rw [(releaseWrite_some left).1] at earlier
  exact absurd (Option.some.inj earlier).symm same

end Writers

-- the calls of the writers, each at a step that is inside the lock or not
section Calls

variable {Call : Type} [DecidableEq Writer] {locked : Call → Prop} {calls : Writer → Call} {after : Call}

theorem Writes.update_outside (writes : Writes (fun writer => locked (calls writer)) lock)
    (free : ¬ locked after) : Writes (fun other => locked (Function.update calls writer after other)) lock := by
  intro other inside
  by_cases same : other = writer
  · subst same
    rw [Function.update_self] at inside
    exact absurd inside free
  · rw [Function.update_of_ne same] at inside
    exact writes other inside

theorem Writes.update_inside (writes : Writes (fun writer => locked (calls writer)) lock)
    (held : locked (calls writer)) : Writes (fun other => locked (Function.update calls writer after other)) lock := by
  intro other inside
  by_cases same : other = writer
  · subst same
    exact writes other held
  · rw [Function.update_of_ne same] at inside
    exact writes other inside

theorem Writes.update_acquire [DecidableEq Reader] (writes : Writes (fun writer => locked (calls writer)) lock)
    (taken : lock.acquireWrite writer = some next) :
    Writes (fun other => locked (Function.update calls writer after other)) next := by
  apply writes.acquireWrite taken
  intro other different inside
  rw [Function.update_of_ne different] at inside
  exact inside

theorem Writes.update_release (writes : Writes (fun writer => locked (calls writer)) lock)
    (left : lock.releaseWrite writer = some next) (free : ¬ locked after) :
    Writes (fun other => locked (Function.update calls writer after other)) next := by
  apply writes.releaseWrite left
  · rw [Function.update_self]
    exact free
  · intro other different inside
    rw [Function.update_of_ne different] at inside
    exact inside

end Calls

end ReadWriteLock

end Locking
