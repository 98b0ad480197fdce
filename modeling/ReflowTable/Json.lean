import ReflowTable.Types

/-!
# `nlohmann::json`, as far as the parsers use it

A document as `parse` makes it, and the accessors with the exception each throws on a value of
another type. `object_t` is a map, so the members of an object are looked up by key only.
-/

namespace ReflowTable

inductive Json
  | null
  | boolean (value : Bool)
  /-- a negative integer literal -/
  | numberInteger (value : Int64)
  | numberUnsigned (value : UInt64)
  /-- every other number literal -/
  | numberFloat (value : ℚ)
  | string (value : String)
  | array (items : List Json)
  | object (members : List (String × Json))

/-- `nlohmann::json::exception` by class. -/
inductive JsonException
  | parseError
  | typeError
deriving DecidableEq

/-- A chain of decoders accepts when each of them does. -/
theorem bind_eq_ok_iff {ε α β : Type} {x : Except ε α} {f : α → Except ε β} {b : β} :
    x >>= f = .ok b ↔ ∃ a, x = .ok a ∧ f a = .ok b := by
  cases x with
  | error e =>
    refine iff_of_false (fun h => ?_) fun ⟨_, h, _⟩ => ?_
    · cases h
    · cases h
  | ok a =>
    constructor
    · intro h
      exact ⟨a, rfl, h⟩
    · rintro ⟨_, ⟨⟩, h⟩
      exact h

/-- It throws what the first of them to throw does. -/
theorem bind_eq_error_iff {ε α β : Type} {x : Except ε α} {f : α → Except ε β} {e : ε} :
    x >>= f = .error e ↔ x = .error e ∨ ∃ a, x = .ok a ∧ f a = .error e := by
  cases x with
  | error e' =>
    constructor
    · intro h
      cases h
      exact .inl rfl
    · rintro (⟨⟨⟩⟩ | ⟨_, ⟨⟩, _⟩)
      rfl
  | ok a =>
    constructor
    · intro h
      exact .inr ⟨a, rfl, h⟩
    · rintro (⟨⟨⟩⟩ | ⟨_, ⟨⟩, h⟩)
      exact h

namespace Json

def isObject : Json → Bool
  | object _ => true
  | _ => false

/-- Integers and floating-point numbers alike. -/
def isNumber : Json → Bool
  | numberInteger _ => true
  | numberUnsigned _ => true
  | numberFloat _ => true
  | _ => false

/-- `find`, which finds nothing in a value that is not an object. -/
def find (key : String) : Json → Option Json
  | object members => members.lookup key
  | _ => none

/-- `operator[]` with a key the program then only reads: a missing member is `null`. -/
def member (key : String) : Json → Except JsonException Json
  | object members => .ok ((members.lookup key).getD null)
  | null => .ok null
  | _ => .error .typeError

/-- `get_ref<const object_t&>`. -/
def getObject : Json → Except JsonException (List (String × Json))
  | object members => .ok members
  | _ => .error .typeError

/-- `get<std::string>`. -/
def getString : Json → Except JsonException String
  | string value => .ok value
  | _ => .error .typeError

/-- `get<std::uint32_t>`: any number by `static_cast`, and booleans as well. -/
def getUInt32 (tc : Toolchain) : Json → Except JsonException UInt32
  | numberInteger value => .ok (.ofNat (Casts.ofInt 32 value.toInt))
  | numberUnsigned value => .ok (.ofNat (Casts.ofInt 32 value.toNat))
  | numberFloat value => .ok (tc.toUInt32 value)
  | boolean value => .ok (if value then 1 else 0)
  | _ => .error .typeError

/-- `get<std::size_t>`. `std::size_t` is the library's own unsigned type, and for that booleans
are not converted. -/
def getSizeT (tc : Toolchain) : Json → Except JsonException UInt64
  | numberInteger value => .ok (.ofNat (Casts.ofInt 64 value.toInt))
  | numberUnsigned value => .ok value
  | numberFloat value => .ok (tc.toUInt64 value)
  | _ => .error .typeError

/-- `get<float>`, without the rounding to a `float`. -/
def getFloat : Json → Except JsonException ℚ
  | numberInteger value => .ok value.toInt
  | numberUnsigned value => .ok value.toNat
  | numberFloat value => .ok value
  | boolean value => .ok (if value then 1 else 0)
  | _ => .error .typeError

/-- Only an object has members. -/
theorem isObject_of_find {doc it : Json} {key : String} (h : doc.find key = some it) :
    doc.isObject = true := by
  cases doc with
  | object members => rfl
  | _ => cases h

/-! ## Numbers -/

/-- The number a JSON number stands for. -/
def number? : Json → Option ℚ
  | numberInteger value => some value.toInt
  | numberUnsigned value => some value.toNat
  | numberFloat value => some value
  | _ => none

/-- **`get<std::uint32_t>` keeps a number exactly when it fits.** -/
theorem getUInt32_toNat_eq_iff {tc : Toolchain} {j : Json} {q : ℚ} {word : UInt32}
    (hq : j.number? = some q) (hword : j.getUInt32 tc = .ok word) :
    (word.toNat : ℚ) = q ↔ Casts.Fits 32 q := by
  cases j with
  | numberInteger value =>
    cases hq
    cases hword
    rw [UInt32.toNat_ofNat_of_lt' (Casts.ofInt_lt 32 _), Casts.ofInt_eq_iff]
  | numberUnsigned value =>
    cases hq
    cases hword
    rw [UInt32.toNat_ofNat_of_lt' (Casts.ofInt_lt 32 _)]
    exact_mod_cast Casts.ofInt_eq_iff (w := 32) value.toNat
  | numberFloat value =>
    cases hq
    cases hword
    rw [Toolchain.toUInt32, UInt32.toNat_ofNat_of_lt' (Casts.ofRat_lt tc.undef 32 _),
      Casts.ofRat_eq_iff]
  | _ => cases hq

/-- `get<float>` of a number is the number, as nothing is rounded. -/
theorem getFloat_of_number {j : Json} {q : ℚ} (hq : j.number? = some q) : j.getFloat = .ok q := by
  cases j <;> cases hq <;> rfl

end Json

end ReflowTable
