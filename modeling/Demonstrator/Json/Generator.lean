import Demonstrator.Json.Documents

namespace Json

variable {ε G N : Type}

/-- What a generator is inside of; `field` is an object whose next field has its name already. -/
inductive Context where
  | array
  | object
  | field
  deriving DecidableEq, Repr

def afterValue : List Context → Option (List Context)
  | [] => some []
  | .array :: outer => some (.array :: outer)
  | .field :: outer => some (.object :: outer)
  | .object :: _ => none

def Context.close : Context → Token N
  | .array => .endArray
  | .object | .field => .endObject

/-- Code that writes with a generator in the states `G`; what it has written stays when it throws. -/
abbrev Writing (ε G : Type) := ExceptT ε (StateM G)

/-- The calls of a generator, each of which may throw. `written` and `contexts` tell what has been written and what is
    open, and `number` what a number is written as. -/
structure Generator (ε G N : Type) where
  create : G
  writeStartArray : Writing ε G Unit
  writeEndArray : Writing ε G Unit
  writeStartObject : Writing ε G Unit
  writeEndObject : Writing ε G Unit
  writeFieldName (name : String) : Writing ε G Unit
  writeString (value : Option String) : Writing ε G Unit
  writeNumber (value : N) : Writing ε G Unit
  writeValue (value : Value N) : Writing ε G Unit
  close : G → List (Token N)
  written : G → List (Token N)
  contexts : G → List Context
  number : N → Value N

namespace Generator

variable (g : Generator ε G N)

def writeStringField (name : String) (value : Option String) : Writing ε G Unit := do
  g.writeFieldName name
  g.writeString value

def writeNumberField (name : String) (value : N) : Writing ε G Unit := do
  g.writeFieldName name
  g.writeNumber value

def writeArrayFieldStart (name : String) : Writing ε G Unit := do
  g.writeFieldName name
  g.writeStartArray

/-- The code writes the tokens, takes the generator from one list of contexts to another, and returns or throws. -/
def Runs (contexts : List Context) (w : Writing ε G Unit) (returns : Bool) (tokens : List (Token N))
    (after : List Context) : Prop :=
  ∀ s, g.contexts s = contexts →
    ∃ exit t, w s = (exit, t) ∧ exit.isOk = returns ∧ g.written t = g.written s ++ tokens ∧ g.contexts t = after

abbrev Writes (contexts : List Context) (w : Writing ε G Unit) (tokens : List (Token N)) (after : List Context) : Prop :=
  g.Runs contexts w true tokens after

/-- What a generator is documented to do: a value is written where values are allowed, a name where one is expected, an
    end inside of what it ends, and `close` ends all that is open. -/
structure Documented : Prop where
  create : g.written g.create = [] ∧ g.contexts g.create = []
  writeStartArray : ∀ contexts after, afterValue contexts = some after →
    g.Writes contexts g.writeStartArray [.startArray] (.array :: after)
  writeEndArray : ∀ outer, g.Writes (.array :: outer) g.writeEndArray [.endArray] outer
  writeStartObject : ∀ contexts after, afterValue contexts = some after →
    g.Writes contexts g.writeStartObject [.startObject] (.object :: after)
  writeEndObject : ∀ outer, g.Writes (.object :: outer) g.writeEndObject [.endObject] outer
  writeFieldName : ∀ name outer, g.Writes (.object :: outer) (g.writeFieldName name) [.fieldName name] (.field :: outer)
  -- a null text is written as the literal
  writeString : ∀ value contexts after, afterValue contexts = some after →
    g.Writes contexts (g.writeString value) [value.elim .null .text] after
  writeNumber : ∀ value contexts after, afterValue contexts = some after →
    g.Writes contexts (g.writeNumber value) (g.number value).tokens after
  writeValue : ∀ value contexts after, afterValue contexts = some after →
    g.Writes contexts (g.writeValue value) value.tokens after
  close : ∀ s, .field ∉ g.contexts s → g.close s = g.written s ++ (g.contexts s).map Context.close

end Generator

namespace Writing

def call {α : Type} (reply : Except ε α) : Writing ε G α := fun s => (reply, s)

def catching (w : Writing ε G Unit) (handler : ε → Writing ε G Unit) : Writing ε G Unit := fun s =>
  match w s with
  | (.ok (), written) => (.ok (), written)
  | (.error thrown, written) => handler thrown written

end Writing

namespace Generator

open Writing

/-- When the generator is closed after it, the code has written the tokens. -/
def Ends (g : Generator ε G N) (contexts : List Context) (w : Writing ε G Unit) (returns : Bool)
    (tokens : List (Token N)) : Prop :=
  ∃ written after, g.Runs contexts w returns written after ∧ .field ∉ after ∧
    written ++ after.map Context.close = tokens

section Rules

variable {g : Generator ε G N} {contexts between after : List Context} {w next : Writing ε G Unit} {returns : Bool}
  {tokens later : List (Token N)}

theorem run_bind_ok {s t : G} (first : w s = (.ok (), t)) : (do w; next : Writing ε G Unit) s = next t := by
  change ExceptT.bindCont (fun _ => next) (w s).1 (w s).2 = _
  rw [first]
  rfl

theorem run_bind_error {s t : G} {thrown : ε} (first : w s = (.error thrown, t)) :
    (do w; next : Writing ε G Unit) s = (.error thrown, t) := by
  change ExceptT.bindCont (fun _ => next) (w s).1 (w s).2 = _
  rw [first]
  rfl

theorem writes_pure : g.Writes contexts (pure ()) [] contexts :=
  fun s inside => ⟨.ok (), s, rfl, rfl, (List.append_nil _).symm, inside⟩

theorem throws_call (thrown : ε) : g.Runs contexts (call (.error thrown)) false [] contexts :=
  fun s inside => ⟨.error thrown, s, rfl, rfl, (List.append_nil _).symm, inside⟩

theorem Runs.bind (first : g.Writes contexts w tokens between) (second : g.Runs between next returns later after) :
    g.Runs contexts (do w; next) returns (tokens ++ later) after := by
  intro s inside
  obtain ⟨exit, t, ran, returned, written, reached⟩ := first s inside
  obtain ⟨last, u, ended, leaves, more, left⟩ := second t reached
  cases exit with
  | error thrown => cases returned
  | ok value =>
    refine ⟨last, u, ?_, leaves, ?_, left⟩
    · rw [run_bind_ok ran, ended]
    · rw [more, written, List.append_assoc]

theorem Runs.bind_of_throws (first : g.Runs contexts w false tokens after) (next : Writing ε G Unit) :
    g.Runs contexts (do w; next) false tokens after := by
  intro s inside
  obtain ⟨exit, t, ran, throws, written, left⟩ := first s inside
  cases exit with
  | error thrown => exact ⟨.error thrown, t, run_bind_error ran, rfl, written, left⟩
  | ok value => cases throws

theorem Runs.congr (runs : g.Runs contexts w returns tokens after) (same : tokens = later) :
    g.Runs contexts w returns later after :=
  same ▸ runs

theorem Runs.catching (runs : g.Runs contexts w returns tokens after) :
    g.Writes contexts (catching w fun _ => pure ()) tokens after := by
  intro s inside
  obtain ⟨exit, t, ran, _, written, left⟩ := runs s inside
  refine ⟨.ok (), t, ?_, rfl, written, left⟩
  rw [Writing.catching, ran]
  cases exit <;> rfl

theorem writes_forM {α : Type} {body : α → Writing ε G Unit} {tokens : α → List (Token N)} {items : List α}
    (each : ∀ item ∈ items, g.Writes contexts (body item) (tokens item) contexts) :
    g.Writes contexts (items.forM body) (items.flatMap tokens) contexts := by
  induction items with
  | nil => exact writes_pure
  | cons item items ih =>
    rw [List.forall_mem_cons] at each
    rw [List.flatMap_cons]
    exact each.1.bind (ih each.2)

theorem Runs.ends (runs : g.Runs contexts w returns tokens after) (named : .field ∉ after) :
    g.Ends contexts w returns (tokens ++ after.map Context.close) :=
  ⟨tokens, after, runs, named, rfl⟩

theorem Runs.bind_ends (first : g.Writes contexts w tokens between) (second : g.Ends between next returns later) :
    g.Ends contexts (do w; next) returns (tokens ++ later) := by
  obtain ⟨written, after, runs, named, rfl⟩ := second
  exact ⟨tokens ++ written, after, first.bind runs, named, List.append_assoc ..⟩

theorem Ends.congr (ends : g.Ends contexts w returns tokens) (same : tokens = later) :
    g.Ends contexts w returns later :=
  same ▸ ends

theorem Documented.closed (documented : g.Documented) (ends : g.Ends [] w returns tokens) :
    (w g.create).1.isOk = returns ∧ g.close (w g.create).2 = tokens := by
  obtain ⟨written, after, runs, named, rfl⟩ := ends
  obtain ⟨exit, t, ran, leaves, more, left⟩ := runs g.create documented.create.2
  rw [ran]
  refine ⟨leaves, ?_⟩
  rw [documented.close t (left ▸ named), more, left, documented.create.1, List.nil_append]

end Rules

section Fields

variable {g : Generator ε G N} (documented : g.Documented) (name : String) (outer : List Context)
include documented

theorem Documented.writeStringField (value : Option String) :
    g.Writes (.object :: outer) (g.writeStringField name value) [.fieldName name, value.elim .null .text]
      (.object :: outer) :=
  (documented.writeFieldName name outer).bind (documented.writeString value _ _ rfl)

theorem Documented.writeNumberField (value : N) :
    g.Writes (.object :: outer) (g.writeNumberField name value) (.fieldName name :: (g.number value).tokens)
      (.object :: outer) :=
  (documented.writeFieldName name outer).bind (documented.writeNumber value _ _ rfl)

theorem Documented.writeArrayFieldStart :
    g.Writes (.object :: outer) (g.writeArrayFieldStart name) [.fieldName name, .startArray]
      (.array :: .object :: outer) :=
  (documented.writeFieldName name outer).bind (documented.writeStartArray _ _ rfl)

end Fields

end Generator

/-- A generator that keeps the tokens and refuses what is not allowed. -/
structure Recorder (N : Type) where
  tokens : List (Token N)
  contexts : List Context
  deriving DecidableEq, Repr

namespace Recorder

variable (refused : ε)

def write (tokens : List (Token N)) (allowed : List Context → Option (List Context)) : Writing ε (Recorder N) Unit :=
  fun s =>
    match allowed s.contexts with
    | some after => (.ok (), ⟨s.tokens ++ tokens, after⟩)
    | none => (.error refused, s)

def startIn (inside : Context) (contexts : List Context) : Option (List Context) :=
  (afterValue contexts).map (inside :: ·)

def endOf (inside : Context) : List Context → Option (List Context)
  | [] => none
  | innermost :: outer => if innermost = inside then some outer else none

def named (contexts : List Context) : Option (List Context) := (endOf .object contexts).map (.field :: ·)

def generator (number : N → Value N) : Generator ε (Recorder N) N where
  create := ⟨[], []⟩
  writeStartArray := write refused [.startArray] (startIn .array)
  writeEndArray := write refused [.endArray] (endOf .array)
  writeStartObject := write refused [.startObject] (startIn .object)
  writeEndObject := write refused [.endObject] (endOf .object)
  writeFieldName name := write refused [.fieldName name] named
  writeString value := write refused [value.elim .null .text] afterValue
  writeNumber value := write refused (number value).tokens afterValue
  writeValue value := write refused value.tokens afterValue
  close s := s.tokens ++ s.contexts.map Context.close
  written := tokens
  contexts := contexts
  number := number

theorem writes_write (number : N → Value N) {contexts after : List Context} (tokens : List (Token N))
    (allowed : List Context → Option (List Context)) (accepted : allowed contexts = some after) :
    (generator refused number).Writes contexts (write refused tokens allowed) tokens after := by
  rintro s rfl
  refine ⟨.ok (), ⟨s.tokens ++ tokens, after⟩, ?_, rfl, rfl, rfl⟩
  have found : allowed s.contexts = some after := accepted
  simp only [write, found]

theorem startIn_of_allowed (inside : Context) {contexts after : List Context}
    (accepted : afterValue contexts = some after) : startIn inside contexts = some (inside :: after) := by
  rw [startIn, accepted, Option.map_some]

theorem endOf_self (inside : Context) (outer : List Context) : endOf inside (inside :: outer) = some outer :=
  if_pos rfl

theorem documented (number : N → Value N) : (generator refused number).Documented where
  create := ⟨rfl, rfl⟩
  writeStartArray _ _ accepted := writes_write refused number _ _ (startIn_of_allowed .array accepted)
  writeEndArray outer := writes_write refused number _ _ (endOf_self .array outer)
  writeStartObject _ _ accepted := writes_write refused number _ _ (startIn_of_allowed .object accepted)
  writeEndObject outer := writes_write refused number _ _ (endOf_self .object outer)
  writeFieldName _ _ := writes_write refused number _ named rfl
  writeString _ _ _ accepted := writes_write refused number _ _ accepted
  writeNumber _ _ _ accepted := writes_write refused number _ _ accepted
  writeValue _ _ _ accepted := writes_write refused number _ _ accepted
  close _ _ := rfl

end Recorder

end Json
