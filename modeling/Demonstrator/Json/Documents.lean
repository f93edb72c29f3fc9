import Mathlib.Data.List.Basic

namespace Json

variable {N : Type}

inductive Value (N : Type) where
  | null
  | text (value : String)
  | number (value : N)
  | array (items : List (Value N))
  | object (fields : List (String × Value N))

inductive Token (N : Type) where
  | null
  | text (value : String)
  | number (value : N)
  | startArray
  | endArray
  | startObject
  | endObject
  | fieldName (name : String)
  deriving DecidableEq, Repr

mutual

def Value.tokens : Value N → List (Token N)
  | .null => [.null]
  | .text value => [.text value]
  | .number value => [.number value]
  | .array items => .startArray :: (itemTokens items ++ [.endArray])
  | .object fields => .startObject :: (fieldTokens fields ++ [.endObject])

def itemTokens : List (Value N) → List (Token N)
  | [] => []
  | item :: items => item.tokens ++ itemTokens items

def fieldTokens : List (String × Value N) → List (Token N)
  | [] => []
  | (name, value) :: fields => .fieldName name :: (value.tokens ++ fieldTokens fields)

end

theorem itemTokens_eq (items : List (Value N)) : itemTokens items = items.flatMap Value.tokens := by
  induction items with
  | nil => rw [itemTokens, List.flatMap_nil]
  | cons item items ih => rw [itemTokens, ih, List.flatMap_cons]

theorem itemTokens_append (items later : List (Value N)) :
    itemTokens (items ++ later) = itemTokens items ++ itemTokens later := by
  rw [itemTokens_eq, itemTokens_eq, itemTokens_eq, List.flatMap_append]

theorem fieldTokens_append (fields later : List (String × Value N)) :
    fieldTokens (fields ++ later) = fieldTokens fields ++ fieldTokens later := by
  induction fields with
  | nil => rfl
  | cons field fields ih => simp [fieldTokens, ih]

inductive Frame (N : Type) where
  | array (items : List (Value N))
  | object (fields : List (String × Value N))
  | field (fields : List (String × Value N)) (name : String)

structure Reader (N : Type) where
  frames : List (Frame N)
  document : Option (Value N)

def Reader.value (value : Value N) : Reader N → Option (Reader N)
  | ⟨[], none⟩ => some ⟨[], some value⟩
  | ⟨[], some _⟩ => none
  | ⟨.array items :: frames, document⟩ => some ⟨.array (items ++ [value]) :: frames, document⟩
  | ⟨.field fields name :: frames, document⟩ => some ⟨.object (fields ++ [(name, value)]) :: frames, document⟩
  | ⟨.object _ :: _, _⟩ => none

def Reader.token (r : Reader N) : Token N → Option (Reader N)
  | .null => r.value .null
  | .text value => r.value (.text value)
  | .number value => r.value (.number value)
  | .startArray => some { r with frames := .array [] :: r.frames }
  | .startObject => some { r with frames := .object [] :: r.frames }
  | .endArray =>
    match r with
    | ⟨.array items :: frames, document⟩ => Reader.value (.array items) ⟨frames, document⟩
    | _ => none
  | .endObject =>
    match r with
    | ⟨.object fields :: frames, document⟩ => Reader.value (.object fields) ⟨frames, document⟩
    | _ => none
  | .fieldName name =>
    match r with
    | ⟨.object fields :: frames, document⟩ => some ⟨.field fields name :: frames, document⟩
    | _ => none

def Reader.tokens (r : Reader N) : List (Token N) → Option (Reader N)
  | [] => some r
  | token :: later => (r.token token).bind fun next => next.tokens later

def read (tokens : List (Token N)) : Option (Value N) :=
  match Reader.tokens ⟨[], none⟩ tokens with
  | some ⟨[], document⟩ => document
  | _ => none

mutual

theorem tokens_value (value : Value N) (r : Reader N) (later : List (Token N)) :
    r.tokens (value.tokens ++ later) = (r.value value).bind fun next => next.tokens later := by
  cases value with
  | null => rfl
  | text value => rfl
  | number value => rfl
  | array items =>
    simp only [Value.tokens, List.cons_append, List.append_assoc, Reader.tokens, Reader.token, Option.bind_some]
    rw [tokens_items items [] r.frames r.document]
    rfl
  | object fields =>
    simp only [Value.tokens, List.cons_append, List.append_assoc, Reader.tokens, Reader.token, Option.bind_some]
    rw [tokens_fields fields [] r.frames r.document]
    rfl

theorem tokens_items (items done : List (Value N)) (frames : List (Frame N)) (document : Option (Value N))
    (later : List (Token N)) :
    Reader.tokens ⟨.array done :: frames, document⟩ (itemTokens items ++ later) =
      Reader.tokens ⟨.array (done ++ items) :: frames, document⟩ later := by
  cases items with
  | nil => simp [itemTokens]
  | cons item items =>
    rw [itemTokens, List.append_assoc, tokens_value item]
    simp only [Reader.value, Option.bind_some]
    rw [tokens_items items, List.append_assoc]
    rfl

theorem tokens_fields (fields done : List (String × Value N)) (frames : List (Frame N))
    (document : Option (Value N)) (later : List (Token N)) :
    Reader.tokens ⟨.object done :: frames, document⟩ (fieldTokens fields ++ later) =
      Reader.tokens ⟨.object (done ++ fields) :: frames, document⟩ later := by
  match fields with
  | [] => simp [fieldTokens]
  | (name, value) :: fields =>
    rw [fieldTokens, List.cons_append, List.append_assoc, Reader.tokens]
    simp only [Reader.token, Option.bind_some]
    rw [tokens_value value]
    simp only [Reader.value, Option.bind_some]
    rw [tokens_fields fields, List.append_assoc]
    rfl

end

theorem read_tokens (value : Value N) : read value.tokens = some value := by
  have ran := tokens_value value ⟨[], none⟩ []
  rw [List.append_nil] at ran
  simp only [read, ran, Reader.value, Reader.tokens, Option.bind_some]

end Json
