import ReflowTable.HeaterOff
import ReflowTable.ModbusProxy

/-!
# The switch-off at the device

The controller's writes pass through the proxy, and a write may fail in all of its attempts. The
controller does not hear of it: the run is over, and the device keeps the word it has. What can
be said of the device while the controller is idle depends on which writes got through.
-/

namespace ReflowTable

open ModbusRequestsProxy

/-- The last call that covers a register. -/
theorem exists_last_call {addr word : UInt16} {calls : List RegistersWrite}
    (hlast : (wordsAt addr calls).getLast? = some word) :
    ∃ pre call post, calls = pre ++ call :: post ∧ call.wordAt addr = some word ∧
      wordsAt addr post = [] := by
  induction calls using List.reverseRecOn with
  | nil => simp at hlast
  | append_singleton calls call ih =>
    rw [wordsAt_append, wordsAt_singleton] at hlast
    cases hword : call.wordAt addr with
    | some w =>
      rw [hword, Option.toList_some, List.getLast?_concat, Option.some.injEq] at hlast
      exact ⟨calls, call, [], rfl, hlast ▸ hword, rfl⟩
    | none =>
      rw [hword, Option.toList_none, List.append_nil] at hlast
      obtain ⟨pre, last, post, rfl, hlastWord, hpost⟩ := ih hlast
      refine ⟨pre, last, post ++ [call], by simp, hlastWord, ?_⟩
      rw [wordsAt_append, hpost, wordsAt_singleton, hword]
      rfl

/-- The target words of a session that reached the device, oldest first. -/
def deliveredWords (bus : ℕ → ℤ) (line : Line) (calls : List RegistersWrite) : List UInt16 :=
  wordsAt kTargetTemperatureAddr (delivered bus calls line)

/-- The device's target register is `0`, or the session never wrote it. -/
def DeviceOff (bus : ℕ → ℤ) (line : Line) (calls : List RegistersWrite) : Prop :=
  deliveredWords bus line calls = [] ∨
    (session bus calls line).registers kTargetTemperatureAddr = 0

/-- The last of the calls that cover the target register got through. -/
def LastTargetGotThrough (bus : ℕ → ℤ) (line : Line) (calls : List RegistersWrite) : Prop :=
  ∀ pre call post, calls = pre ++ call :: post → call.wordAt kTargetTemperatureAddr ≠ none →
    wordsAt kTargetTemperatureAddr post = [] → GotThrough bus (session bus pre line)

/-- Whenever a stage temperature reached the device, a switch-off reached it later. -/
def HeatingAnswered (bus : ℕ → ℤ) (line : Line) (calls : List RegistersWrite) : Prop :=
  ∀ pre word post, deliveredWords bus line calls = pre ++ word :: post → word ≠ 0 → 0 ∈ post

variable {bus : ℕ → ℤ} {line : Line} {calls : List RegistersWrite}

theorem delivered_of_not_target (hnone : wordsAt kTargetTemperatureAddr calls = []) :
    deliveredWords bus line calls = [] := by
  rw [deliveredWords, wordsAt, List.filterMap_eq_nil_iff] at *
  exact fun call hmem => hnone call ((delivered_sublist calls line).subset hmem)

/-- The device holds the last target word that reached it. -/
theorem deviceOff_iff_getLast? :
    DeviceOff bus line calls ↔ deliveredWords bus line calls = [] ∨
      (deliveredWords bus line calls).getLast? = some 0 := by
  rw [DeviceOff, registers_session, Registers.storeAll_apply, ← deliveredWords]
  cases hlast : (deliveredWords bus line calls).getLast? with
  | none => simp [List.getLast?_eq_none_iff.mp hlast]
  | some word => simp

theorem deviceOff_iff : DeviceOff bus line calls ↔ HeatingAnswered bus line calls := by
  rw [deviceOff_iff_getLast?]
  constructor
  · rintro hoff pre word post hsplit hne
    rw [hsplit, List.getLast?_append_of_ne_nil _ (List.cons_ne_nil _ _)] at hoff
    have hlast : (word :: post).getLast? = some 0 := hoff.resolve_left (by simp)
    -- the last word is not `word` itself
    exact (List.mem_cons.mp (List.mem_of_getLast? hlast)).resolve_left (Ne.symm hne)
  · intro hanswered
    rcases List.eq_nil_or_concat (deliveredWords bus line calls) with hnil | ⟨words, last, hlast⟩
    · exact .inl hnil
    · rw [List.concat_eq_append] at hlast
      right
      rw [hlast, List.getLast?_concat]
      by_contra hne
      exact absurd (hanswered words last [] hlast fun hzero => hne (congrArg some hzero))
        List.not_mem_nil

/-- An idle controller's last target write is a switch-off; if it got through, the device is
off. -/
theorem deviceOff_of_gotThrough
    (hoff : wordsAt kTargetTemperatureAddr calls = [] ∨
      (wordsAt kTargetTemperatureAddr calls).getLast? = some 0)
    (hgot : LastTargetGotThrough bus line calls) : DeviceOff bus line calls := by
  rw [deviceOff_iff_getLast?]
  rcases hoff with hnone | hlast
  · exact .inl (delivered_of_not_target hnone)
  · obtain ⟨pre, call, post, rfl, hword, hpost⟩ := exists_last_call hlast
    have hthrough := hgot pre call post rfl (by simp [hword]) hpost
    right
    have hrest : deliveredWords bus (scheduleRegistersWrite bus call (session bus pre line)) post
        = [] := delivered_of_not_target hpost
    rw [deliveredWords] at hrest
    rw [deliveredWords, delivered_append, delivered, if_pos hthrough, wordsAt_append,
      wordsAt_append, hrest, wordsAt_singleton, hword]
    simp

namespace Server

variable {tc : Toolchain} {s : Server}

/-- **The switch-off at the device.** While the controller is idle the device is off if the last
target write got through; it is off exactly if every stage temperature that reached the device
was followed by a switch-off that did. -/
theorem switched_off_iff (hs : (operations tc).Reachable s)
    (hidle : s.reflowController.isRunning = false) (bus : ℕ → ℤ) (line : Line) :
    (LastTargetGotThrough bus line (writes s.reflowController.trace) →
        DeviceOff bus line (writes s.reflowController.trace)) ∧
      (DeviceOff bus line (writes s.reflowController.trace) ↔
        HeatingAnswered bus line (writes s.reflowController.trace)) :=
  ⟨deviceOff_of_gotThrough (heaterOff_of_reachable hs hidle), deviceOff_iff⟩

/-- The line of a session that has not begun. -/
def freshLine : Line := ⟨[], fun _ => 0, []⟩

/-- A stopped run whose switch-off needs all of its attempts. -/
theorem switched_off_iff_stoppedRun :
    let calls := writes ((operations .sample).run make stoppedRun).reflowController.trace
    let bus : ℕ → ℤ := fun attempt => if 1 ≤ attempt ∧ attempt ≤ 3 then -1 else 1
    deliveredWords bus freshLine calls = [183, 0] ∧
      (LastTargetGotThrough bus freshLine calls → DeviceOff bus freshLine calls) ∧
      (DeviceOff bus freshLine calls ↔ HeatingAnswered bus freshLine calls) :=
  ⟨by decide, switched_off_iff (reachable_run .sample stoppedRun) (by decide) _ _⟩

/-- A stopped run whose switch-off fails in all of its attempts leaves the heater on. -/
theorem not_deviceOff_stoppedRun :
    let s := (operations .sample).run make stoppedRun
    let bus : ℕ → ℤ := fun attempt => if attempt = 0 then 1 else -1
    (operations .sample).Reachable s ∧ s.reflowController.isRunning = false ∧
      (session bus (writes s.reflowController.trace) freshLine).registers
        kTargetTemperatureAddr = 183 ∧
      ¬ DeviceOff bus freshLine (writes s.reflowController.trace) := by
  refine ⟨reachable_run .sample stoppedRun, by decide, by decide, ?_⟩
  rintro (hnone | hzero)
  · exact absurd hnone (by decide)
  · exact absurd hzero (by decide)

end Server

end ReflowTable
