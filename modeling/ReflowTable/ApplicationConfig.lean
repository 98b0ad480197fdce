import ReflowTable.ModbusProxy
import ReflowTable.RequestUtils
import ReflowTable.Thermometers

/-!
# The configuration of the line

`application_config.cpp` reads the configuration file when the program starts, and the constructor
of the proxy (`modbus_proxy.cpp`) sets the line up with it. The file's numbers are converted
twice on the way: by the JSON library to the types of the configuration, and in the calls of the
line's library to `int`. A number that is too great for that is not turned down. The device is
passed as a C string, which ends at its first zero.
-/

namespace ReflowTable

/-! ## The file -/

/-- `ConfigData::ModbusConfigData`. -/
structure ModbusConfigData where
  isDebugMode : Bool
  modbusSlaveAddress : UInt8
  serialDevicePath : String
  modbusBaudrate : UInt32
deriving DecidableEq

structure ConfigData where
  modbusConfig : ModbusConfigData
deriving DecidableEq

namespace Json

/-- `static_cast` of what is a number or a boolean. -/
def castTo (tc : Toolchain) (w : ℕ) : Json → Except JsonException ℕ
  | numberInteger value => .ok (Casts.ofInt w value.toInt)
  | numberUnsigned value => .ok (Casts.ofInt w value.toNat)
  | numberFloat value => .ok (Casts.ofRat tc.undef w value)
  | boolean value => .ok (if value then 1 else 0)
  | _ => .error .typeError

/-- `get<std::uint8_t>`. -/
def getUInt8 (tc : Toolchain) (j : Json) : Except JsonException UInt8 :=
  (j.castTo tc 8).map .ofNat

/-- `get<bool>`. -/
def getBool : Json → Except JsonException Bool
  | boolean value => .ok value
  | _ => .error .typeError

end Json

namespace ConfigHolder

variable (lib : Libraries)

/-- `parse` throws or yields a document that is not discarded. -/
def parseConfigFile (configFile : Body) : Except JsonException ConfigData :=
  match lib.parse configFile with
  | none => .error .parseError
  | some jsonFile => do
    let serialDevicePath ← (← (← jsonFile.member "serial").member "path").getString
    let modbusBaudrate ← (← (← jsonFile.member "serial").member "baudrate").getUInt32
      lib.toToolchain
    let modbusSlaveAddress ← (← (← jsonFile.member "modbus").member "slave_address").getUInt8
      lib.toToolchain
    let isDebugMode ← (← (← jsonFile.member "modbus").member "enable_debug_mode").getBool
    return ⟨⟨isDebugMode, modbusSlaveAddress, serialDevicePath, modbusBaudrate⟩⟩

def createDefaultConfig : ConfigData := ⟨⟨false, 0, "/dev/ttyUSB0", 9600⟩⟩

/-- The constructor, `none` where there is no file. -/
def make (configPath : Option Body) : Except JsonException ConfigData :=
  match configPath with
  | none => .ok createDefaultConfig
  | some configFile => parseConfigFile lib configFile

end ConfigHolder

/-! ## The line -/

/-- The calls of the line's library. -/
inductive LineCall
  /-- `modbus_new_rtu` -/
  | newRtu (device : List Char) (baud : ℤ) (parity : Char) (dataBit stopBit : ℤ)
  /-- `modbus_set_response_timeout` -/
  | setResponseTimeout (toSec toUsec : ℕ)
  /-- `modbus_set_debug` -/
  | setDebug (flag : Bool)
  /-- `modbus_set_error_recovery`, of the link and of the protocol -/
  | setErrorRecovery
  /-- `modbus_set_slave` -/
  | setSlave (slave : ℤ)
  /-- `modbus_connect` -/
  | connect
deriving DecidableEq

namespace ModbusRequestsProxy

def kSecondsTimeout : ℕ := 5

/-- `c_str`, as the library reads it. -/
def device (serialDevicePath : String) : List Char := upToZero serialDevicePath.toList

/-- The call that is made in debug mode only. -/
def debugCalls (isDebugMode : Bool) : List LineCall := if isDebugMode then [.setDebug true] else []

/-- The constructor, as the calls it makes; `answers` are the library's, a null handle being a
negative one. A call that fails is logged, and the constructor returns. -/
def setUp (answers : LineCall → ℤ) (config : ModbusConfigData) : List LineCall :=
  let new :=
    .newRtu (device config.serialDevicePath) config.modbusBaudrate.toInt32.toInt 'N' 8 1
  if isFailed (answers new) then [new]
  else
    let timeout := .setResponseTimeout kSecondsTimeout 0
    if isFailed (answers timeout) then [new, timeout]
    else
      let slave := .setSlave config.modbusSlaveAddress.toNat
      if isFailed (answers slave) then
        new :: timeout :: (debugCalls config.isDebugMode ++ [.setErrorRecovery, slave])
      else new :: timeout :: (debugCalls config.isDebugMode ++ [.setErrorRecovery, slave, .connect])

/-- A line set up as wanted. -/
def connection (path : String) (baud slave : ℕ) (debug : Bool) : List LineCall :=
  .newRtu path.toList baud 'N' 8 1 :: .setResponseTimeout kSecondsTimeout 0 ::
    (debugCalls debug ++ [.setErrorRecovery, .setSlave slave, .connect])

/-- No call that is checked fails before the connection is tried. -/
structure SetsUp (answers : LineCall → ℤ) (path : String) (baud slave : ℕ) : Prop where
  new : isFailed (answers (.newRtu path.toList baud 'N' 8 1)) = false
  timeout : isFailed (answers (.setResponseTimeout kSecondsTimeout 0)) = false
  slave : isFailed (answers (.setSlave slave)) = false

variable {answers : LineCall → ℤ} {config : ModbusConfigData} {path : String} {baud slave : ℕ}
  {debug : Bool}

theorem connect_not_mem_debugCalls (isDebugMode : Bool) :
    LineCall.connect ∉ debugCalls isDebugMode := by
  cases isDebugMode <;> decide

theorem connect_mem_connection : LineCall.connect ∈ connection path baud slave debug := by
  simp [connection]

/-- With answers that are all right the constructor makes every call. -/
theorem setUp_of_setsUp (hsets : SetsUp answers path baud slave)
    (hpath : device config.serialDevicePath = path.toList)
    (hbaud : config.modbusBaudrate.toInt32.toInt = baud)
    (hslave : config.modbusSlaveAddress.toNat = slave) :
    setUp answers config = connection path baud slave config.isDebugMode := by
  simp only [setUp, hpath, hbaud, hslave, hsets.new, hsets.timeout, hsets.slave,
    Bool.false_eq_true, if_false]
  rfl

/-- The connection is tried after no failure. -/
theorem not_isFailed_of_connect (hconnect : LineCall.connect ∈ setUp answers config) :
    isFailed (answers (.newRtu (device config.serialDevicePath)
        config.modbusBaudrate.toInt32.toInt 'N' 8 1)) = false ∧
      isFailed (answers (.setResponseTimeout kSecondsTimeout 0)) = false ∧
      isFailed (answers (.setSlave config.modbusSlaveAddress.toNat)) = false := by
  simp only [setUp] at hconnect
  split_ifs at hconnect with hnew htimeout hslave
  · simp at hconnect
  · simp at hconnect
  · simp [connect_not_mem_debugCalls] at hconnect
  · exact ⟨Bool.eq_false_iff.mpr hnew, Bool.eq_false_iff.mpr htimeout, Bool.eq_false_iff.mpr hslave⟩

/-- The calls of a line show what it was set up with. -/
theorem debugCalls_append_inj {debug' : Bool} {slave slave' : ℤ}
    (h : debugCalls debug ++ [.setErrorRecovery, .setSlave slave, .connect] =
      debugCalls debug' ++ [.setErrorRecovery, .setSlave slave', .connect]) :
    debug = debug' ∧ slave = slave' := by
  cases debug <;> cases debug' <;> simp_all [debugCalls]

/-- **When the constructor sets the line up as wanted.** -/
theorem setUp_eq_iff : setUp answers config = connection path baud slave debug ↔
    device config.serialDevicePath = path.toList ∧ config.modbusBaudrate.toInt32.toInt = baud ∧
      config.modbusSlaveAddress.toNat = slave ∧ config.isDebugMode = debug ∧
      SetsUp answers path baud slave := by
  constructor
  · intro hcalls
    have hconnect : LineCall.connect ∈ setUp answers config := by
      rw [hcalls]
      exact connect_mem_connection
    obtain ⟨hnew, htimeout, hslave⟩ := not_isFailed_of_connect hconnect
    simp only [setUp, connection, hnew, htimeout, hslave, Bool.false_eq_true, if_false,
      List.cons.injEq, LineCall.newRtu.injEq, true_and, and_true] at hcalls
    obtain ⟨⟨hpath, hbaud⟩, hrest⟩ := hcalls
    obtain ⟨rfl, hnumber⟩ := debugCalls_append_inj hrest
    rw [hpath, hbaud] at hnew
    rw [hnumber] at hslave
    exact ⟨hpath, hbaud, Nat.cast_injective hnumber, rfl, hnew, htimeout, hslave⟩
  · rintro ⟨hpath, hbaud, hslave, rfl, hsets⟩
    exact setUp_of_setsUp hsets hpath hbaud hslave

theorem zero_not_mem_device (serialDevicePath : String) : '\x00' ∉ device serialDevicePath := by
  intro hmem
  simpa using List.mem_takeWhile_imp hmem

theorem device_eq_of_not_mem (h : '\x00' ∉ path.toList) : device path = path.toList :=
  upToZero_of_not_mem h

end ModbusRequestsProxy

/-! ## From the file to the line -/

namespace Json

variable {tc : Toolchain} {j part doc : Json} {key : String} {w : ℕ}

/-- The number that `static_cast` starts from. -/
def amount? : Json → Option ℚ
  | boolean value => some (if value then 1 else 0)
  | j => j.number?

/-- The member of a member. -/
def entry (outer key : String) (doc : Json) : Option Json := (doc.find outer).bind (find key)

theorem getUInt32_eq_castTo (tc : Toolchain) (j : Json) :
    j.getUInt32 tc = (j.castTo tc 32).map .ofNat := by
  cases j with
  | boolean value => cases value <;> rfl
  | _ => rfl

/-- Whatever has an amount is converted, and keeps it exactly when it fits. -/
theorem exists_castTo {q : ℚ} (hq : j.amount? = some q) (tc : Toolchain) (hw : 0 < w) :
    ∃ n, j.castTo tc w = .ok n ∧ n < 2 ^ w ∧ ((n : ℚ) = q ↔ Casts.Fits w q) := by
  cases j with
  | numberInteger value =>
    cases hq
    exact ⟨_, rfl, Casts.ofInt_lt w _, Casts.ofInt_eq_iff _⟩
  | numberUnsigned value =>
    cases hq
    exact ⟨_, rfl, Casts.ofInt_lt w _, by exact_mod_cast Casts.ofInt_eq_iff (w := w) value.toNat⟩
  | numberFloat value =>
    cases hq
    exact ⟨_, rfl, Casts.ofRat_lt tc.undef w _, Casts.ofRat_eq_iff tc.undef _⟩
  | boolean value =>
    have hone : 1 < 2 ^ w := Nat.one_lt_two_pow hw.ne'
    have hlt : (if value then 1 else 0) < 2 ^ w := by
      split_ifs <;> omega
    refine ⟨_, rfl, hlt, ?_⟩
    have hamount : (((if value then 1 else 0 : ℕ)) : ℚ) = q := by
      rw [← Option.some.inj hq]
      split_ifs <;> simp
    exact iff_of_true hamount ⟨_, hlt, hamount.symm⟩
  | _ => cases hq

theorem exists_amount {n : ℕ} (h : j.castTo tc w = .ok n) : ∃ q, j.amount? = some q := by
  cases j with
  | numberInteger value => exact ⟨_, rfl⟩
  | numberUnsigned value => exact ⟨_, rfl⟩
  | numberFloat value => exact ⟨_, rfl⟩
  | boolean value => exact ⟨_, rfl⟩
  | _ => cases h

theorem member_of_find (h : part.find key = some j) : part.member key = .ok j := by
  cases part with
  | object members =>
    have hlookup : members.lookup key = some j := h
    rw [member, hlookup, Option.getD_some]
  | _ => cases h

/-- What is not null is a member. -/
theorem find_of_member (h : part.member key = .ok j) (hne : j ≠ .null) :
    part.find key = some j := by
  cases part with
  | object members =>
    have hget : (members.lookup key).getD null = j := Except.ok.inj h
    cases hlookup : members.lookup key with
    | none =>
      rw [hlookup] at hget
      exact absurd hget.symm hne
    | some found =>
      rw [hlookup, Option.getD_some] at hget
      rw [← hget]
      exact hlookup
  | null => exact absurd (Except.ok.inj h).symm hne
  | _ => cases h

theorem exists_member {outer : String} (h : doc.entry outer key = some j) :
    ∃ part, doc.member outer = .ok part ∧ part.member key = .ok j := by
  obtain ⟨part, hpart, hj⟩ := Option.bind_eq_some_iff.mp h
  exact ⟨part, member_of_find hpart, member_of_find hj⟩

/-- One step of the decoder: an entry that is read as something other than null is there. -/
theorem exists_entry {α β : Type} {outer : String} {get : Json → Except JsonException α}
    (hnull : ∀ a, get .null ≠ .ok a) {rest : α → Except JsonException β} {b : β}
    (h : (doc.member outer >>= fun part => part.member key >>= fun j => get j >>= rest) = .ok b) :
    ∃ j a, doc.entry outer key = some j ∧ get j = .ok a ∧ rest a = .ok b := by
  obtain ⟨part, hpart, h⟩ := bind_eq_ok_iff.mp h
  obtain ⟨j, hj, h⟩ := bind_eq_ok_iff.mp h
  obtain ⟨a, ha, hrest⟩ := bind_eq_ok_iff.mp h
  have hj_ne : j ≠ .null := by
    rintro rfl
    exact hnull a ha
  have hpart_ne : part ≠ .null := by
    rintro rfl
    exact hj_ne (Except.ok.inj hj).symm
  refine ⟨j, a, ?_, ha, hrest⟩
  rw [entry, find_of_member hpart hpart_ne, Option.bind_some, find_of_member hj hj_ne]

theorem eq_string_of_getString {text : String} (h : j.getString = .ok text) : j = .string text := by
  cases j with
  | string value => rw [Except.ok.inj h]
  | _ => cases h

theorem eq_boolean_of_getBool {value : Bool} (h : j.getBool = .ok value) : j = .boolean value := by
  cases j with
  | boolean value' => rw [Except.ok.inj h]
  | _ => cases h

/-- What a conversion accepts has an amount. -/
theorem exists_amount_of_map {α : Type} {f : ℕ → α} {a : α}
    (h : (j.castTo tc w).map f = .ok a) : ∃ q, j.amount? = some q := by
  cases hcast : j.castTo tc w with
  | error e => simp [hcast, Except.map] at h
  | ok n => exact exists_amount hcast

end Json

namespace ConfigHolder

/-- What a file says. -/
structure Says (doc : Json) (path : String) (baud slave : ℚ) (debug : Bool) : Prop where
  path : doc.entry "serial" "path" = some (.string path)
  baudrate : (doc.entry "serial" "baudrate").bind Json.amount? = some baud
  slave_address : (doc.entry "modbus" "slave_address").bind Json.amount? = some slave
  debug : doc.entry "modbus" "enable_debug_mode" = some (.boolean debug)

variable {lib : Libraries} {text : Body} {doc : Json} {path : String} {baud slave : ℚ}
  {debug : Bool}

/-- What becomes of it. -/
theorem exists_config (hparse : lib.parse text = some doc)
    (hsaid : Says doc path baud slave debug) :
    ∃ (modbusBaudrate : UInt32) (modbusSlaveAddress : UInt8),
      make lib (some text) = .ok ⟨⟨debug, modbusSlaveAddress, path, modbusBaudrate⟩⟩ ∧
        ((modbusBaudrate.toNat : ℚ) = baud ↔ Casts.Fits 32 baud) ∧
        ((modbusSlaveAddress.toNat : ℚ) = slave ↔ Casts.Fits 8 slave) := by
  obtain ⟨baudJson, hbaudEntry, hbaud⟩ := Option.bind_eq_some_iff.mp hsaid.baudrate
  obtain ⟨slaveJson, hslaveEntry, hslave⟩ := Option.bind_eq_some_iff.mp hsaid.slave_address
  obtain ⟨b, hb, hb_lt, hb_iff⟩ := Json.exists_castTo hbaud lib.toToolchain (w := 32) (by decide)
  obtain ⟨a, ha, ha_lt, ha_iff⟩ := Json.exists_castTo hslave lib.toToolchain (w := 8) (by decide)
  obtain ⟨serial, hserial, hpath⟩ := Json.exists_member hsaid.path
  obtain ⟨serial', hserial', hbaudMember⟩ := Json.exists_member hbaudEntry
  obtain ⟨modbus, hmodbus, hslaveMember⟩ := Json.exists_member hslaveEntry
  obtain ⟨modbus', hmodbus', hdebug⟩ := Json.exists_member hsaid.debug
  obtain rfl : serial' = serial := Except.ok.inj (hserial'.symm.trans hserial)
  obtain rfl : modbus' = modbus := Except.ok.inj (hmodbus'.symm.trans hmodbus)
  refine ⟨.ofNat b, .ofNat a, ?_, ?_, ?_⟩
  · simp only [make, parseConfigFile, hparse, hserial, hmodbus, hpath, hbaudMember, hslaveMember,
      hdebug, Json.getUInt32_eq_castTo, hb, Json.getUInt8, ha, bind, Except.bind, Except.map]
    rfl
  · rwa [UInt32.toNat_ofNat_of_lt' hb_lt]
  · rwa [UInt8.toNat_ofNat_of_lt' ha_lt]

/-- A file that is accepted says something. -/
theorem exists_says {config : ConfigData} (hmake : make lib (some text) = .ok config) :
    ∃ doc path baud slave debug, lib.parse text = some doc ∧ Says doc path baud slave debug := by
  rw [make, parseConfigFile] at hmake
  cases hparse : lib.parse text with
  | none => simp [hparse] at hmake
  | some doc =>
    simp only [hparse] at hmake
    -- the four entries, in the order in which they are read
    obtain ⟨pathJson, path, hpath, hstring, hmake⟩ :=
      Json.exists_entry (by simp [Json.getString]) hmake
    obtain ⟨baudJson, _, hbaud, hbaudrate, hmake⟩ :=
      Json.exists_entry (by simp [Json.getUInt32]) hmake
    obtain ⟨slaveJson, _, hslave, haddress, hmake⟩ :=
      Json.exists_entry (by simp [Json.getUInt8, Json.castTo, Except.map]) hmake
    obtain ⟨debugJson, debug, hdebug, hbool, -⟩ := Json.exists_entry (by simp [Json.getBool]) hmake
    rw [Json.getUInt32_eq_castTo] at hbaudrate
    obtain ⟨baud, hbaud_amount⟩ := Json.exists_amount_of_map hbaudrate
    obtain ⟨slave, hslave_amount⟩ := Json.exists_amount_of_map haddress
    obtain rfl := Json.eq_string_of_getString hstring
    obtain rfl := Json.eq_boolean_of_getBool hbool
    refine ⟨doc, path, baud, slave, debug, rfl, hpath, ?_, ?_, hdebug⟩
    · rw [hbaud, Option.bind_some, hbaud_amount]
    · rw [hslave, Option.bind_some, hslave_amount]

end ConfigHolder

open ConfigHolder (Says)
open ModbusRequestsProxy (setUp connection SetsUp setUp_eq_iff)

variable (lib : Libraries) (text : Body)

/-- The line is set up with what the file says. -/
def SetUpAsSaid (calls : List LineCall) : Prop :=
  ∃ doc path debug, ∃ baud slave : ℕ, lib.parse text = some doc ∧
    Says doc path baud slave debug ∧ calls = connection path baud slave debug

/-- **When the line is what the file says.** A file is accepted exactly if it is a document with a
device, two numbers and a switch where they are looked for. The line is then set up with them, and
the connection tried, exactly if the device contains no zero, the rate is an `int`, the address has
8 bits, and no call of the library that is checked fails before. -/
theorem line_setUp_iff (answers : LineCall → ℤ) :
    ((∃ config, ConfigHolder.make lib (some text) = .ok config) ↔
      ∃ doc path baud slave debug, lib.parse text = some doc ∧ Says doc path baud slave debug) ∧
    ((∃ config, ConfigHolder.make lib (some text) = .ok config ∧
        SetUpAsSaid lib text (setUp answers config.modbusConfig)) ↔
      ∃ doc path debug, ∃ baud slave : ℕ, lib.parse text = some doc ∧
        Says doc path baud slave debug ∧ '\x00' ∉ path.toList ∧ baud < 2 ^ 31 ∧ slave < 2 ^ 8 ∧
        SetsUp answers path baud slave) := by
  refine ⟨⟨?_, ?_⟩, ⟨?_, ?_⟩⟩
  · rintro ⟨config, hmake⟩
    exact ConfigHolder.exists_says hmake
  · rintro ⟨doc, path, baud, slave, debug, hparse, hsaid⟩
    obtain ⟨baudrate, address, hmake, -, -⟩ := ConfigHolder.exists_config hparse hsaid
    exact ⟨_, hmake⟩
  · rintro ⟨config, -, doc, path, debug, baud, slave, hparse, hsaid, hcalls⟩
    obtain ⟨hpath, hbaud, hslave, -, hsets⟩ := setUp_eq_iff.mp hcalls
    have hzero := ModbusRequestsProxy.zero_not_mem_device config.modbusConfig.serialDevicePath
    rw [hpath] at hzero
    have hrate := config.modbusConfig.modbusBaudrate.toInt32.toInt_lt
    have haddress := config.modbusConfig.modbusSlaveAddress.toNat_lt
    exact ⟨doc, path, debug, baud, slave, hparse, hsaid, hzero, by omega, by omega, hsets⟩
  · rintro ⟨doc, path, debug, baud, slave, hparse, hsaid, hzero, hbaud, hslave, hsets⟩
    obtain ⟨baudrate, address, hmake, hrate, haddress⟩ := ConfigHolder.exists_config hparse hsaid
    have hbaudrate : baudrate.toNat = baud :=
      Nat.cast_injective (hrate.mpr ⟨baud, hbaud.trans (by decide), rfl⟩)
    have haddress : address.toNat = slave := Nat.cast_injective (haddress.mpr ⟨slave, hslave, rfl⟩)
    have hint : baudrate.toInt32.toInt = baud := by
      rw [toInt_toInt32_of_lt (by omega), hbaudrate]
    exact ⟨_, hmake, doc, path, debug, baud, slave, hparse, hsaid, setUp_eq_iff.mpr
      ⟨ModbusRequestsProxy.device_eq_of_not_mem hzero, hint, haddress, rfl, hsets⟩⟩

end ReflowTable
