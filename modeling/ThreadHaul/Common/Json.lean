import ThreadHaul.Common.Bytes
import ThreadHaul.Lib.Utf8

/-!
# JSON Values

What the code uses of its JSON library: values, the typed access to a member of
an object, and the two ways of throwing that matter.

`value(key, default)` answers the default only if the member is missing. A
member that is there is converted, and the conversion throws if the member has
another type; so does `value` on anything but an object. Each typed access is
`value` with the conversion as a parameter, and `value_returns_iff` says when it
does not throw.

`dump` throws on a string that is not UTF-8. The text it writes is represented
by the value it is the text of.

## Main definitions

* `Json`, `JsonError`: Values, and what the library throws.
* `Returns`: A computation does not throw.
* `getString`, `getInt`, `getDouble`, `getBool`: The conversions.
* `value`: A member with a default.
* `dump`: Serialisation, as far as it can throw.
* `AllText`: Every string of a value is UTF-8.

## Theorems

* `returns_bind`: A sequence returns if its parts do.
* `value_returns_iff`: When the access to a member of an object does not throw.
* `value_string_eq_ok_iff`: When it gives some string.
* `dump_of_allText`: Serialisation of text does not throw.
* `allText_object`, `allText_array`: `AllText`, part by part.
-/

namespace ThreadHaul

/-- A value of the library. Text that could not be parsed is the value
    `discarded`; a number is stored as an integer or as a finite `double`. -/
inductive Json
  | discarded
  | null
  | boolean (b : Bool)
  | integer (n : Int)
  | float (x : Rat)
  | string (s : Bytes)
  | array (elements : List Json)
  | object (members : List (Bytes × Json))

/-- What the library throws. -/
inductive JsonError
  /-- `type_error` 302: a value of another type. -/
  | wrongType
  /-- `type_error` 306: `value()` on something that is not an object. -/
  | notObject
  /-- `type_error` 316: a string that is not UTF-8. -/
  | invalidUtf8
  deriving DecidableEq, Repr

/-- The computation does not throw. -/
def Returns {ε α : Type} (x : Except ε α) : Prop := ∃ a, x = .ok a

section Returns

variable {ε α β : Type}

@[simp] theorem returns_ok (a : α) : Returns (.ok a : Except ε α) := ⟨a, rfl⟩

@[simp] theorem returns_pure (a : α) : Returns (pure a : Except ε α) := ⟨a, rfl⟩

@[simp] theorem not_returns_error (e : ε) : ¬ Returns (.error e : Except ε α) := by
  rintro ⟨a, h⟩
  cases h

theorem bind_eq_ok_iff (x : Except ε α) (f : α → Except ε β) (b : β) :
    (x >>= f) = .ok b ↔ ∃ a, x = .ok a ∧ f a = .ok b := by
  -- An exception is passed on; a value goes to the continuation.
  cases x with
  | error e =>
      constructor
      · intro h
        cases h
      · rintro ⟨a, ha, _⟩
        cases ha
  | ok a =>
      constructor
      · intro h
        exact ⟨a, rfl, h⟩
      · rintro ⟨a', ha, h⟩
        cases ha
        exact h

/-- A sequence returns exactly if its first part does and the rest does on what
    the first part gave. -/
theorem returns_bind (x : Except ε α) (f : α → Except ε β) :
    Returns (x >>= f) ↔ ∃ a, x = .ok a ∧ Returns (f a) := by
  simp only [Returns, bind_eq_ok_iff]
  constructor
  · rintro ⟨b, a, ha, hb⟩
    exact ⟨a, ha, b, hb⟩
  · rintro ⟨a, ha, b, hb⟩
    exact ⟨b, a, ha, hb⟩

theorem returns_ok_bind (a : α) (f : α → Except ε β) :
    Returns ((.ok a : Except ε α) >>= f) ↔ Returns (f a) := Iff.rfl

/-- A sequence whose rest always returns. -/
theorem returns_bind_of_forall (x : Except ε α) (f : α → Except ε β) (hf : ∀ a, Returns (f a)) :
    Returns (x >>= f) ↔ Returns x := by
  rw [returns_bind]
  exact ⟨fun ⟨a, ha, _⟩ => ⟨a, ha⟩, fun ⟨a, ha⟩ => ⟨a, ha, hf a⟩⟩

end Returns

namespace Json

/-- `is_discarded`: the text did not parse. -/
def isDiscarded : Json → Bool
  | discarded => true
  | _ => false

/-- `is_object`. -/
def isObject : Json → Bool
  | object _ => true
  | _ => false

/-- `is_string`. -/
def isString : Json → Bool
  | string _ => true
  | _ => false

/-- What converts to an `int`: a boolean does too. -/
def isIntLike : Json → Bool
  | boolean _ | integer _ | float _ => true
  | _ => false

/-- `is_number`. -/
def isNumber : Json → Bool
  | integer _ | float _ => true
  | _ => false

/-- `static_cast<int>` of a `double`: the fraction is cut off. A value that no
    `int` holds converts to the smallest one. -/
def intOfRat (x : Rat) : Int32 :=
  let n := x.num.tdiv x.den
  if Int32.minValue.toInt ≤ n ∧ n ≤ Int32.maxValue.toInt then Int32.ofInt n else Int32.minValue

/-- `get<std::string>`. -/
def getString : Json → Except JsonError Bytes
  | string s => .ok s
  | _ => .error .wrongType

/-- `get<int>`, which converts truth values and numbers. -/
def getInt : Json → Except JsonError Int32
  | boolean b => .ok (if b then 1 else 0)
  | integer n => .ok (Int32.ofInt n)
  | float x => .ok (intOfRat x)
  | _ => .error .wrongType

/-- `get<double>`. -/
def getDouble : Json → Except JsonError Rat
  | integer n => .ok n
  | float x => .ok x
  | _ => .error .wrongType

/-- `get<bool>`. -/
def getBool : Json → Except JsonError Bool
  | boolean b => .ok b
  | _ => .error .wrongType

theorem getString_returns_iff (j : Json) : Returns j.getString ↔ j.isString = true := by
  cases j <;> simp only [getString, isString, returns_ok, not_returns_error, Bool.false_eq_true]

theorem getInt_returns_iff (j : Json) : Returns j.getInt ↔ j.isIntLike = true := by
  cases j <;> simp only [getInt, isIntLike, returns_ok, not_returns_error, Bool.false_eq_true]

theorem getDouble_returns_iff (j : Json) : Returns j.getDouble ↔ j.isNumber = true := by
  cases j <;> simp only [getDouble, isNumber, returns_ok, not_returns_error, Bool.false_eq_true]

/-- A member of an object. -/
def find (members : List (Bytes × Json)) (key : Bytes) : Option Json := members.lookup key

/-- `value(key, default)`, with the conversion to the type of the default. -/
def value {α : Type} (get : Json → Except JsonError α) (j : Json) (key : Bytes) (default : α) :
    Except JsonError α :=
  match j with
  | object members =>
      match find members key with
      | some member => get member
      | none => .ok default
  | _ => .error .notObject

/-- Every member under the key passes the test. -/
def MemberIs (members : List (Bytes × Json)) (key : Bytes) (test : Json → Bool) : Prop :=
  ∀ member, find members key = some member → test member = true

/-- The access to a member of an object does not throw exactly if the member is
    missing or converts. -/
theorem value_returns_iff {α : Type} (get : Json → Except JsonError α) (test : Json → Bool)
    (hget : ∀ j, Returns (get j) ↔ test j = true) (members : List (Bytes × Json))
    (key : Bytes) (default : α) :
    Returns (value get (object members) key default) ↔ MemberIs members key test := by
  unfold value MemberIs
  rcases hfind : find members key with _ | member
  · simp only [hfind, returns_ok, reduceCtorEq, false_implies, implies_true]
  · simp only [hfind, hget, Option.some.injEq, forall_eq']

/-- A string other than the default is the member itself. -/
theorem value_string_eq_ok_iff (members : List (Bytes × Json)) (key default s : Bytes)
    (hs : s ≠ default) :
    value getString (object members) key default = .ok s ↔
      find members key = some (string s) := by
  unfold value
  rcases hfind : find members key with _ | member
  · simp only [hfind, Except.ok.injEq, reduceCtorEq, iff_false]
    exact fun h => hs h.symm
  · cases member <;> simp only [hfind, getString, reduceCtorEq, Except.ok.injEq, Option.some.injEq,
      string.injEq]

/-- What a typed access that does not throw gives. -/
theorem value_eq_ok {α : Type} (get : Json → Except JsonError α) (members : List (Bytes × Json))
    (key : Bytes) (default a : α) (h : value get (object members) key default = .ok a) :
    (find members key = none ∧ a = default) ∨
      ∃ member, find members key = some member ∧ get member = .ok a := by
  unfold value at h
  rcases hfind : find members key with _ | member
  · simp only [hfind, Except.ok.injEq] at h
    exact .inl ⟨rfl, h.symm⟩
  · simp only [hfind] at h
    exact .inr ⟨member, rfl, h⟩

mutual

/-- The strings in a value, the keys of its objects included. -/
def strings : Json → List Bytes
  | string s => [s]
  | array elements => stringsOfElements elements
  | object members => stringsOfMembers members
  | discarded | null | boolean _ | integer _ | float _ => []

/-- The texts in the elements of an array. -/
def stringsOfElements : List Json → List Bytes
  | [] => []
  | j :: elements => j.strings ++ stringsOfElements elements

/-- The texts in the members of an object, with the keys. -/
def stringsOfMembers : List (Bytes × Json) → List Bytes
  | [] => []
  | (key, j) :: members => key :: j.strings ++ stringsOfMembers members

end

/-- `dump()`. -/
def dump (j : Json) : Except JsonError Json :=
  if ∀ s ∈ j.strings, Utf8.Valid s then .ok j else .error .invalidUtf8

/-- Every string of the value is UTF-8. -/
def AllText (j : Json) : Prop := ∀ s ∈ j.strings, Utf8.Valid s

theorem dump_of_allText (j : Json) (h : AllText j) : j.dump = .ok j := if_pos h

/-- What is written is what was to be written. -/
theorem eq_of_dump {j j' : Json} (h : j.dump = .ok j') : j' = j := by
  unfold dump at h
  split at h
  · exact (Except.ok.inj h).symm
  · cases h

@[simp] theorem allText_boolean (b : Bool) : AllText (.boolean b) :=
  fun _ hs => absurd hs List.not_mem_nil

@[simp] theorem allText_integer (n : Int) : AllText (.integer n) :=
  fun _ hs => absurd hs List.not_mem_nil

@[simp] theorem allText_float (x : Rat) : AllText (.float x) :=
  fun _ hs => absurd hs List.not_mem_nil

@[simp] theorem allText_string (s : Bytes) : AllText (.string s) ↔ Utf8.Valid s := by
  unfold AllText
  rw [strings, List.forall_mem_singleton]

theorem allText_array (elements : List Json) :
    AllText (.array elements) ↔ ∀ j ∈ elements, AllText j := by
  unfold AllText
  rw [strings]
  induction elements with
  | nil => simp only [stringsOfElements, List.not_mem_nil, false_implies, implies_true]
  | cons j elements ih =>
      rw [stringsOfElements, List.forall_mem_append, ih, List.forall_mem_cons]

@[simp] theorem allText_object (members : List (Bytes × Json)) :
    AllText (.object members) ↔ ∀ m ∈ members, Utf8.Valid m.1 ∧ AllText m.2 := by
  unfold AllText
  rw [strings]
  induction members with
  | nil => simp only [stringsOfMembers, List.not_mem_nil, false_implies, implies_true]
  | cons m members ih =>
      rw [stringsOfMembers, List.cons_append, List.forall_mem_cons, List.forall_mem_append, ih,
        List.forall_mem_cons, and_assoc]

/-- Text written in the source is ASCII. -/
theorem valid_ascii (s : String) (h : (ascii s).all (· < 128) = true) : Utf8.Valid (ascii s) :=
  Utf8.valid_of_all _ h

end Json

end ThreadHaul
