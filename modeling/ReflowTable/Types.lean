import Mathlib.Data.List.Induction
import Mathlib.Data.Rat.Defs
import ReflowTable.Lib.Casts

/-!
# Data shared by the components

The values that travel between the HTTP layer, the presets, the controller and the Modbus
proxy: stages, regulator parameters, commands, register writes and faults.

Types follow the source. `std::uint16_t`, `std::uint32_t` and `std::size_t` are Lean's
fixed-width words, `std::int32_t` is `Int32`, durations are integers of their unit, and
`float` is `ℚ`. Numbers are exact rationals: what a `float` rounds is not rounded here, so a `k` of
`2.99999999`, which the program makes `3`, is cut to `2` like any other fraction. Conversions to
words are those of `ReflowTable.Lib.Casts`.
-/

namespace ReflowTable

/-- What the program takes from the C++ library and leaves to it. -/
structure Toolchain where
  /-- `std::hash<std::string_view>` -/
  hash : String → UInt64
  /-- the capacity a full `std::vector` of `n` elements asks for when it grows -/
  grow : ℕ → ℕ
  /-- the result of a floating-point conversion the standard leaves undefined -/
  undef : ℕ → ℚ → ℕ

/-- A toolchain to run the model with. -/
def Toolchain.sample : Toolchain where
  hash name := .ofNat name.length
  grow n := 2 * n
  undef _ _ := 0

/-- `static_cast<std::uint16_t>` of a `float`. -/
def Toolchain.toUInt16 (tc : Toolchain) (q : ℚ) : UInt16 := .ofNat (Casts.ofRat tc.undef 16 q)

theorem Toolchain.toUInt16_toNat (tc : Toolchain) (word : UInt16) :
    tc.toUInt16 word.toNat = word := by
  rw [toUInt16, Casts.ofRat_natCast tc.undef word.toNat_lt, UInt16.ofNat_toNat]

/-- `static_cast<std::uint32_t>` of a floating-point number. -/
def Toolchain.toUInt32 (tc : Toolchain) (q : ℚ) : UInt32 := .ofNat (Casts.ofRat tc.undef 32 q)

/-- `static_cast<std::uint64_t>` of a floating-point number. -/
def Toolchain.toUInt64 (tc : Toolchain) (q : ℚ) : UInt64 := .ofNat (Casts.ofRat tc.undef 64 q)

/-! ## Presets and regulator -/

/-- `Preset::StageItem`: a temperature to reach and the seconds to stay there. -/
structure StageItem where
  temperatureStep : UInt32
  stageDuration : ℤ
deriving DecidableEq

/-- `Controller::RegulatorParams`. -/
structure RegulatorParams where
  k : ℚ
  hysteresis : UInt32
deriving DecidableEq

/-! ## Commands -/

/-- `Commands::TCommandVariant`. -/
inductive CommandVariant
  | startReflow
  | stopReflow
  | selectPreset (presetId : UInt64)
  | setRegulatorParams (params : RegulatorParams)
deriving DecidableEq

/-! ## Faults -/

/-- What can leave a member function other than a return. The first two are exceptions; the
others are undefined behaviour, and nothing is said about the program after them. -/
inductive Fault
  /-- `std::runtime_error` with its text -/
  | runtimeError (what : String)
  /-- `std::out_of_range`, thrown by `std::vector::at` -/
  | outOfRange
  /-- a read through a null pointer -/
  | nullDereference
  /-- a shift by the width of its operand or more -/
  | undefinedShift
deriving DecidableEq

/-! ## Registers -/

/-! The address map, `ModbusProxyNs::Address`. -/

def kSurroundingTempAddr : UInt16 := 0x200F
def kThermocoupleAddr : UInt16 := 0x2010
def kFactorAddr : UInt16 := 0x2011
def kHysteresisAddr : UInt16 := 0x2012
def kTargetTemperatureAddr : UInt16 := 0x2013

def kModbusRegistersCount : ℕ := 5
def kRegulatorParamLength : ℕ := 2

/-- The arguments of one call of `scheduleRegistersWrite`. -/
structure RegistersWrite where
  registerAddress : UInt16
  registers : List UInt16
deriving DecidableEq

/-- The word a write puts into register `addr`, if its range covers it. Registers are
consecutive: word `i` goes to `registerAddress + i`. -/
def RegistersWrite.wordAt (w : RegistersWrite) (addr : UInt16) : Option UInt16 :=
  w.registers[(addr - w.registerAddress).toNat]?

/-- The words a sequence of writes puts into register `addr`, in order. -/
def wordsAt (addr : UInt16) (ws : List RegistersWrite) : List UInt16 :=
  ws.filterMap (·.wordAt addr)

@[simp] theorem wordsAt_nil (addr : UInt16) : wordsAt addr [] = [] := rfl

@[simp] theorem wordsAt_append (addr : UInt16) (ws vs : List RegistersWrite) :
    wordsAt addr (ws ++ vs) = wordsAt addr ws ++ wordsAt addr vs := List.filterMap_append

@[simp] theorem wordsAt_singleton (addr : UInt16) (w : RegistersWrite) :
    wordsAt addr [w] = (w.wordAt addr).toList := by
  cases h : w.wordAt addr <;> simp [wordsAt, h]

/-- The register contents of a device. -/
abbrev Registers := UInt16 → UInt16

/-- The device stores each written word at its address. -/
def Registers.store (w : RegistersWrite) (registers : Registers) : Registers :=
  fun addr => (w.wordAt addr).getD (registers addr)

def Registers.storeAll (ws : List RegistersWrite) (registers : Registers) : Registers :=
  ws.foldl (fun registers w => registers.store w) registers

/-- The device answers a read with `count` stored words from `base` on. -/
def Registers.read (base : UInt16) (count : ℕ) (registers : Registers) : Vector UInt16 count :=
  Vector.ofFn fun i => registers (base + .ofNat i)

/-- A register holds the last word written to it. -/
theorem Registers.storeAll_apply (ws : List RegistersWrite) (registers : Registers)
    (addr : UInt16) :
    registers.storeAll ws addr = ((wordsAt addr ws).getLast?).getD (registers addr) := by
  induction ws using List.reverseRecOn with
  | nil => rfl
  | append_singleton ws w ih =>
    rw [storeAll, List.foldl_append, List.foldl_cons, List.foldl_nil, wordsAt_append,
      wordsAt_singleton, store]
    cases hw : w.wordAt addr with
    | none =>
      rw [Option.getD_none, Option.toList_none, List.append_nil, ← ih, storeAll]
    | some word => simp

/-- A one-word write covers its own address only. -/
theorem wordAt_single (base addr word : UInt16) :
    (RegistersWrite.mk base [word]).wordAt addr = if addr = base then some word else none := by
  by_cases h : addr = base
  · simp [RegistersWrite.wordAt, h]
  · have hne : (addr - base).toNat ≠ 0 := by
      intro h0
      apply h
      have hsub : addr - base = 0 := UInt16.toNat_inj.mp (by simpa using h0)
      simpa using UInt16.sub_eq_iff_eq_add.mp hsub
    simp [RegistersWrite.wordAt, h, hne]

end ReflowTable
