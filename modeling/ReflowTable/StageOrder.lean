import ReflowTable.History

/-!
# The order of the stages

During a run `handleInitStep` is executed for stage 0 first. From then on it is executed for the
same stage again, when a further `StartReflow` has rewound the step, or for the next one, and
for the next one only once the stage has been skipped or has soaked to the end. A run that is
not stopped has been through all its stages.

`VisitPhase` ties the process data of a run to the moments since its start. It speaks of the
*visit* under way, the moments since the last execution of `handleInitStep`, because the
completion timepoint a soak waits for is the one computed on that visit.
-/

namespace ReflowTable

open ReflowProcessController

/-! ## What happens to a stage -/

namespace Moment

/-- The stage index `handleInitStep` is executed for, if it is. -/
def initIndex? (m : Moment) : Option ℕ :=
  match m.activity with
  | .handle _ => none
  | .process _ =>
    if m.before.isReflowRunning = true ∧ m.before.activePreset ≠ none ∧
        m.before.reflowProcessData.reflowStep = .kInitStep then
      some m.before.reflowProcessData.activeStageIndex
    else none

/-- The preheating of stage `i` ends with the stage skipped. -/
structure Skips (v : Vec StageItem) (i : ℕ) (m : Moment) : Prop where
  process : ∃ freed, m.activity = .process freed
  step : m.before.reflowProcessData.reflowStep = .kPreheat
  index : m.before.reflowProcessData.activeStageIndex = i
  skipped : ∃ item, v.items[i]? = some item ∧
    skipsStage item.temperatureStep m.before.lastModbusData

/-- The preheating of stage `i` ends with a soak up to `timepoint`. -/
structure SoakBegins (tc : Toolchain) (v : Vec StageItem) (i : ℕ) (timepoint : ℤ) (m : Moment) :
    Prop where
  process : ∃ freed, m.activity = .process freed
  step : m.before.reflowProcessData.reflowStep = .kPreheat
  index : m.before.reflowProcessData.activeStageIndex = i
  computed : ∃ item, v.items[i]? = some item ∧
    timepoint = m.before.sysTickTime + item.stageDuration * 1000
  soaks : (m.after tc).reflowProcessData.reflowStep = .kInProgress

/-- The soak of stage `i` reaches `timepoint`. -/
structure SoakEnds (i : ℕ) (timepoint : ℤ) (m : Moment) : Prop where
  process : ∃ freed, m.activity = .process freed
  step : m.before.reflowProcessData.reflowStep = .kInProgress
  index : m.before.reflowProcessData.activeStageIndex = i
  awaited : m.before.reflowProcessData.stageCompletionTimepoint = timepoint
  reached : timepoint ≤ m.before.sysTickTime

variable {m : Moment}

theorem initIndex?_eq_some_iff {i : ℕ} :
    m.initIndex? = some i ↔
      m.ExecutesInit ∧ m.before.reflowProcessData.activeStageIndex = i := by
  unfold initIndex?
  cases h : m.activity with
  | handle command =>
    refine iff_of_false (by simp) fun hinit => ?_
    obtain ⟨freed, hprocess⟩ := hinit.1.process
    rw [h] at hprocess
    cases hprocess
  | process freed =>
    show (if _ then _ else _) = _ ↔ _
    split_ifs with hinit
    · rw [Option.some.injEq]
      exact ⟨fun hi => ⟨⟨⟨freed, h⟩, hinit.1, hinit.2.1, hinit.2.2⟩, hi⟩, fun hi => hi.2⟩
    · refine iff_of_false (by simp) fun hi => hinit ?_
      exact ⟨hi.1.running, hi.1.selected, hi.1.step⟩

theorem initIndex?_of_handle {command : CommandVariant} (h : m.activity = .handle command) :
    m.initIndex? = none := by
  unfold initIndex?
  rw [h]

theorem initIndex?_of_step_ne (h : m.before.reflowProcessData.reflowStep ≠ .kInitStep) :
    m.initIndex? = none := by
  rw [Option.eq_none_iff_forall_ne_some]
  intro i hi
  exact h (initIndex?_eq_some_iff.mp hi).1.step

end Moment

/-- The stage indices `handleInitStep` was executed for, in order. -/
def visited (hist : List Moment) : List ℕ := hist.filterMap Moment.initIndex?

@[simp] theorem visited_nil : visited [] = [] := rfl

@[simp] theorem visited_append (hist later : List Moment) :
    visited (hist ++ later) = visited hist ++ visited later := List.filterMap_append

theorem visited_concat_of_none {hist : List Moment} {m : Moment} (h : m.initIndex? = none) :
    visited (hist ++ [m]) = visited hist := by
  simp [visited, h]

theorem visited_concat_of_some {hist : List Moment} {m : Moment} {i : ℕ}
    (h : m.initIndex? = some i) : visited (hist ++ [m]) = visited hist ++ [i] := by
  simp [visited, h]

/-- A soak of stage `i` up to `timepoint` has begun. -/
def Soaking (tc : Toolchain) (v : Vec StageItem) (i : ℕ) (timepoint : ℤ) (visit : List Moment) :
    Prop :=
  ∃ m ∈ visit, m.SoakBegins tc v i timepoint

/-- Stage `i` was skipped, or it soaked up to the timepoint computed for it. -/
def LeftBehind (tc : Toolchain) (v : Vec StageItem) (i : ℕ) (visit : List Moment) : Prop :=
  (∃ m ∈ visit, m.Skips v i) ∨
    Since (fun _ => True) (fun past m => ∃ timepoint, Soaking tc v i timepoint past ∧
      m.SoakEnds i timepoint) visit

/-- `handleInitStep` was last executed for stage `i`, and `Q` holds of the moments since. -/
def Visiting (i : ℕ) (Q : List Moment → Prop) (hist : List Moment) : Prop :=
  ∃ past m visit, hist = past ++ m :: visit ∧ m.initIndex? = some i ∧ visited visit = [] ∧ Q visit

section Visits

variable {tc : Toolchain} {v : Vec StageItem} {i : ℕ} {timepoint : ℤ} {visit hist : List Moment}
  {m : Moment} {Q Q' : List Moment → Prop}

theorem Soaking.concat (h : Soaking tc v i timepoint visit) (m : Moment) :
    Soaking tc v i timepoint (visit ++ [m]) := by
  obtain ⟨n, hn, hbegins⟩ := h
  exact ⟨n, List.mem_append_left _ hn, hbegins⟩

theorem LeftBehind.concat (h : LeftBehind tc v i visit) (m : Moment) :
    LeftBehind tc v i (visit ++ [m]) := by
  rcases h with ⟨n, hn, hskips⟩ | hsoaked
  · exact .inl ⟨n, List.mem_append_left _ hn, hskips⟩
  · exact .inr (hsoaked.keep trivial)

theorem Visiting.now (hm : m.initIndex? = some i) (hQ : Q []) : Visiting i Q (hist ++ [m]) :=
  ⟨hist, m, [], rfl, hm, rfl, hQ⟩

theorem Visiting.keep (h : Visiting i Q hist) (hm : m.initIndex? = none)
    (hQ : ∀ visit, Q visit → Q' (visit ++ [m])) : Visiting i Q' (hist ++ [m]) := by
  obtain ⟨past, n, visit, rfl, hn, hvisit, hold⟩ := h
  refine ⟨past, n, visit ++ [m], by simp, hn, ?_, hQ visit hold⟩
  rw [visited_concat_of_none hm, hvisit]

/-- The last index visited is the one of the visit. -/
theorem Visiting.visited_eq (h : Visiting i Q hist) : ∃ before, visited hist = before ++ [i] := by
  obtain ⟨past, n, visit, rfl, hn, hvisit, -⟩ := h
  refine ⟨visited past, ?_⟩
  rw [List.append_cons, visited_append, visited_concat_of_some hn, hvisit, List.append_nil]

theorem Visiting.mem_visited (h : Visiting i Q hist) : i ∈ visited hist := by
  obtain ⟨before, heq⟩ := h.visited_eq
  rw [heq]
  exact List.mem_append_right _ (List.mem_singleton_self i)

end Visits

/-! ## The phases of a visit -/

/-- What the process data of a run say about the moments since its start. -/
inductive VisitPhase (tc : Toolchain) (ptr : PresetPtr) (v : Vec StageItem) (hist : List Moment)
    (data : ReflowProcessData) : Prop
  /-- no stage was entered yet -/
  | fresh : data.reflowStep = .kInitStep → data.activeStageIndex = 0 → visited hist = [] →
      VisitPhase tc ptr v hist data
  /-- the stage is entered once more -/
  | rewound : data.reflowStep = .kInitStep →
      Visiting data.activeStageIndex (fun _ => True) hist → VisitPhase tc ptr v hist data
  /-- the next stage is entered -/
  | movedOn (i : ℕ) : data.reflowStep = .kInitStep → data.activeStageIndex = i + 1 →
      Visiting i (LeftBehind tc v i) hist → VisitPhase tc ptr v hist data
  | preheat (item : StageItem) : data.reflowStep = .kPreheat →
      data.activePresetState = some ⟨ptr, v.ptrTo data.activeStageIndex⟩ →
      v.items[data.activeStageIndex]? = some item →
      Visiting data.activeStageIndex (fun _ => True) hist → VisitPhase tc ptr v hist data
  | soaking : data.reflowStep = .kInProgress →
      Visiting data.activeStageIndex
        (Soaking tc v data.activeStageIndex data.stageCompletionTimepoint) hist →
      VisitPhase tc ptr v hist data
  | completed : data.reflowStep = .kStageCompleted →
      Visiting data.activeStageIndex (LeftBehind tc v data.activeStageIndex) hist →
      VisitPhase tc ptr v hist data

namespace VisitPhase

variable {tc : Toolchain} {ptr : PresetPtr} {v : Vec StageItem} {hist : List Moment}
  {data : ReflowProcessData} {m : Moment}

/-- A moment that enters no stage and leaves the process data alone. -/
theorem keep (h : VisitPhase tc ptr v hist data) (hm : m.initIndex? = none) :
    VisitPhase tc ptr v (hist ++ [m]) data := by
  cases h with
  | fresh hstep hindex hnone =>
    exact .fresh hstep hindex (by rw [visited_concat_of_none hm, hnone])
  | rewound hstep hvisit => exact .rewound hstep (hvisit.keep hm fun _ _ => trivial)
  | movedOn i hstep hindex hvisit =>
    exact .movedOn i hstep hindex (hvisit.keep hm fun _ hleft => hleft.concat m)
  | preheat item hstep hcached hitem hvisit =>
    exact .preheat item hstep hcached hitem (hvisit.keep hm fun _ _ => trivial)
  | soaking hstep hvisit =>
    exact .soaking hstep (hvisit.keep hm fun _ hsoaking => hsoaking.concat m)
  | completed hstep hvisit =>
    exact .completed hstep (hvisit.keep hm fun _ hleft => hleft.concat m)

/-- A `StartReflow` during the run: a stage that was entered is entered again, one that was
about to be is still. -/
theorem rewind (h : VisitPhase tc ptr v hist data) (hm : m.initIndex? = none) :
    VisitPhase tc ptr v (hist ++ [m]) { data with reflowStep := .kInitStep } := by
  cases h with
  | fresh hstep hindex hnone =>
    exact .fresh rfl hindex (by rw [visited_concat_of_none hm, hnone])
  | movedOn i hstep hindex hvisit =>
    exact .movedOn i rfl hindex (hvisit.keep hm fun _ hleft => hleft.concat m)
  | rewound _ hvisit => exact .rewound rfl (hvisit.keep hm fun _ _ => trivial)
  | preheat _ _ _ _ hvisit => exact .rewound rfl (hvisit.keep hm fun _ _ => trivial)
  | soaking _ hvisit => exact .rewound rfl (hvisit.keep hm fun _ _ => trivial)
  | completed _ hvisit => exact .rewound rfl (hvisit.keep hm fun _ _ => trivial)

/-- The cached pointer reads the stage at the index. -/
theorem derefStage_cached {freed item : StageItem} {i : ℕ}
    (hitems : (m.holder.objects ptr).presetItems = v) (hitem : v.items[i]? = some item) :
    derefStage m.holder freed ⟨ptr, v.ptrTo i⟩ = item := by
  subst hitems
  exact derefStage_of_getElem? hitem

/-- A moment that finds the stage over leaves it behind. -/
theorem leftBehind {freed : StageItem} (h : VisitPhase tc ptr v hist m.before.reflowProcessData)
    (hprocess : m.activity = .process freed) (hitems : (m.holder.objects ptr).presetItems = v)
    (hover : StageOver m.holder freed m.before) :
    Visiting m.before.reflowProcessData.activeStageIndex
      (LeftBehind tc v m.before.reflowProcessData.activeStageIndex) (hist ++ [m]) := by
  rcases hover with ⟨hstep, sp, hsp, hskip⟩ | hstep
  · have hm : m.initIndex? = none := Moment.initIndex?_of_step_ne (by simp [hstep])
    cases h with
    | preheat item _ hcached hitem hvisit =>
      obtain rfl : _ = sp := Option.some.inj (hcached.symm.trans hsp)
      rw [derefStage_cached hitems hitem] at hskip
      exact hvisit.keep hm fun visit _ => .inl ⟨m, by simp,
        ⟨⟨freed, hprocess⟩, hstep, rfl, item, hitem, hskip⟩⟩
    | _ => simp_all
  · have hm : m.initIndex? = none := Moment.initIndex?_of_step_ne (by simp [hstep])
    cases h with
    | completed _ hvisit => exact hvisit.keep hm fun _ hleft => hleft.concat m
    | _ => simp_all

/-- A process moment that does not execute `handleInitStep`. -/
theorem change {freed : StageItem} {c : ReflowProcessController}
    (h : VisitPhase tc ptr v hist m.before.reflowProcessData)
    (hprocess : m.activity = .process freed) (hitems : (m.holder.objects ptr).presetItems = v)
    (hne : m.before.reflowProcessData.reflowStep ≠ .kInitStep)
    (hchange : Relation.ReflGen (ProcessChange m.holder freed) m.before c)
    (hrun : c.isReflowRunning = true)
    (hafter : (m.after tc).reflowProcessData = c.reflowProcessData) :
    VisitPhase tc ptr v (hist ++ [m]) c.reflowProcessData := by
  have hm : m.initIndex? = none := Moment.initIndex?_of_step_ne hne
  cases hchange with
  | refl => exact h.keep hm
  | single hstep =>
    cases hstep with
    | enter _ _ hinit => exact absurd hinit hne
    | finish => simp [ended] at hrun
    | advance => exact h.keep hm
    | moveOn _ _ hover => exact .movedOn _ rfl rfl (h.leftBehind hprocess hitems hover)
    | soak _ hpreheat hsp =>
      cases h with
      | preheat item _ hcached hitem hvisit =>
        obtain rfl := Option.some.inj (hcached.symm.trans hsp)
        refine .soaking rfl (hvisit.keep hm fun visit _ => ⟨m, by simp, ?_⟩)
        refine ⟨⟨freed, hprocess⟩, hpreheat, rfl, ⟨item, hitem, ?_⟩, by rw [hafter]; rfl⟩
        show m.before.sysTickTime + (derefStage m.holder freed _).stageDuration * 1000 = _
        rw [derefStage_cached hitems hitem]
      | _ => simp_all
    | soakDone _ hsoak hreached =>
      cases h with
      | soaking _ hvisit =>
        refine .completed rfl (hvisit.keep hm fun visit hsoaking => .inr (Since.now ?_))
        exact ⟨_, hsoaking, ⟨⟨freed, hprocess⟩, hsoak, rfl, rfl, hreached⟩⟩
      | _ => simp_all

end VisitPhase

/-! ## Ordered index sequences -/

/-- The indices begin at 0, and each equals its predecessor or exceeds it by one. -/
def Ordered (indices : List ℕ) : Prop :=
  (∀ i ∈ indices.head?, i = 0) ∧ indices.IsChain fun i j => j = i ∨ j = i + 1

namespace Ordered

variable {indices : List ℕ} {i j : ℕ}

theorem nil : Ordered [] := ⟨by simp, .nil⟩

theorem singleton_zero : Ordered [0] := ⟨by simp, .singleton 0⟩

theorem concat_concat_iff :
    Ordered (indices ++ [i] ++ [j]) ↔ Ordered (indices ++ [i]) ∧ (j = i ∨ j = i + 1) := by
  have hhead : (indices ++ [i] ++ [j]).head? = (indices ++ [i]).head? := by
    cases indices <;> rfl
  unfold Ordered
  rw [hhead, List.append_assoc, List.singleton_append, List.isChain_append_cons_cons]
  simp only [List.IsChain.singleton, and_true]
  exact and_assoc.symm

/-- Nothing below an index is left out. -/
theorem mem_of_le (h : Ordered indices) (hi : i ∈ indices) : ∀ k ≤ i, k ∈ indices := by
  induction indices using List.reverseRecOn generalizing i with
  | nil => simp at hi
  | append_singleton indices j ih =>
    intro k hk
    rcases List.eq_nil_or_concat indices with rfl | ⟨front, last, rfl⟩
    · have hzero : j = 0 := h.1 j rfl
      have hij : i = j := by simpa using hi
      have hk0 : k = j := by omega
      simp [hk0]
    · rw [List.concat_eq_append] at h hi ih ⊢
      obtain ⟨hfront, hstep⟩ := concat_concat_iff.mp h
      rw [List.mem_append] at hi ⊢
      have hlast : last ∈ front ++ [last] := by simp
      rcases hi with hold | hnew
      · exact .inl (ih hfront hold k hk)
      · have hij : i = j := List.mem_singleton.mp hnew
        by_cases hkj : k = j
        · exact .inr (by simp [hkj])
        · exact .inl (ih hfront hlast k (by omega))

end Ordered

/-! ## Runs -/

/-- The stages so far were in order, and while the run is on its process data are in a phase of
the visit under way. -/
structure OrderInvariant (tc : Toolchain) (ptr : PresetPtr) (v : Vec StageItem)
    (hist : List Moment) (c : ReflowProcessController) : Prop where
  ordered : Ordered (visited hist)
  selected : c.isReflowRunning = true → c.activePreset = some ptr
  phase : c.isReflowRunning = true → VisitPhase tc ptr v hist c.reflowProcessData

namespace OrderInvariant

variable {tc : Toolchain} {ptr : PresetPtr} {v : Vec StageItem} {hist : List Moment}
  {c c' : ReflowProcessController} {m : Moment}

theorem sameRun (h : SameRun c c') (hI : OrderInvariant tc ptr v hist c) :
    OrderInvariant tc ptr v hist c' := by
  obtain ⟨queue, data, rfl⟩ := h
  exact ⟨hI.ordered, hI.selected, hI.phase⟩

theorem handle {command : CommandVariant} (hI : OrderInvariant tc ptr v hist m.before)
    (h : m.activity = .handle command) (hrun : m.before.isReflowRunning = true) :
    OrderInvariant tc ptr v (hist ++ [m]) (m.after tc) := by
  have hm : m.initIndex? = none := Moment.initIndex?_of_handle h
  have hordered : Ordered (visited (hist ++ [m])) := by
    rw [visited_concat_of_none hm]
    exact hI.ordered
  by_cases hstop : command = .stopReflow
  · have hidle : (m.after tc).isReflowRunning ≠ true := by
      rw [Moment.after_stopReflow_of_running (hstop ▸ h) hrun]
      exact Bool.false_ne_true
    exact ⟨hordered, fun hrun' => absurd hrun' hidle, fun hrun' => absurd hrun' hidle⟩
  · obtain ⟨-, hptr, hdata⟩ :=
      Moment.after_handle_of_running tc h hstop hrun (hI.selected hrun)
    refine ⟨hordered, fun _ => hptr, fun _ => ?_⟩
    rcases hdata with hsame | hrewound
    · rw [hsame]
      exact (hI.phase hrun).keep hm
    · rw [hrewound]
      exact (hI.phase hrun).rewind hm

/-- The index `handleInitStep` is executed for comes next in the order. -/
theorem ordered_init (hI : OrderInvariant tc ptr v hist m.before) (hinit : m.ExecutesInit) :
    Ordered (visited hist ++ [m.before.reflowProcessData.activeStageIndex]) := by
  have hordered := hI.ordered
  have hstep := hinit.step
  cases hI.phase hinit.running with
  | fresh _ hindex hnone =>
    rw [hindex, hnone]
    exact .singleton_zero
  | rewound _ hvisit =>
    obtain ⟨before, heq⟩ := hvisit.visited_eq
    rw [heq] at hordered ⊢
    exact Ordered.concat_concat_iff.mpr ⟨hordered, .inl rfl⟩
  | movedOn i _ hindex hvisit =>
    obtain ⟨before, heq⟩ := hvisit.visited_eq
    rw [heq] at hordered ⊢
    exact Ordered.concat_concat_iff.mpr ⟨hordered, .inr hindex⟩
  | _ => simp_all

theorem init (hI : OrderInvariant tc ptr v hist m.before) (hinit : m.ExecutesInit)
    (hitems : (m.holder.objects ptr).presetItems = v) :
    OrderInvariant tc ptr v (hist ++ [m]) (m.after tc) := by
  have hptr := hI.selected hinit.running
  have hm : m.initIndex? = some m.before.reflowProcessData.activeStageIndex :=
    Moment.initIndex?_eq_some_iff.mpr ⟨hinit, rfl⟩
  have hordered : Ordered (visited (hist ++ [m])) := by
    rw [visited_concat_of_some hm]
    exact hI.ordered_init hinit
  cases hitem : (m.holder.objects ptr).presetItems.items[
      m.before.reflowProcessData.activeStageIndex]? with
  | none =>
    -- no such stage: the step stays what it is
    rw [hinit.after_of_none hptr hitem]
    exact ⟨hordered, fun _ => hptr, fun _ => .rewound hinit.step (.now hm trivial)⟩
  | some item =>
    rw [hinit.after_of_some hptr hitem]
    refine ⟨hordered, fun _ => ?_, fun _ => ?_⟩
    · rw [activePreset_advanceSysTick]
      exact hptr
    · rw [reflowProcessData_advanceSysTick]
      refine .preheat item rfl ?_ ?_ (.now hm trivial)
      · rw [← hitems]
        rfl
      · rw [← hitems]
        exact hitem

theorem process {freed : StageItem} (hI : OrderInvariant tc ptr v hist m.before)
    (h : m.activity = .process freed) (hrun : m.before.isReflowRunning = true)
    (hitems : (m.holder.objects ptr).presetItems = v)
    (hne : m.before.reflowProcessData.reflowStep ≠ .kInitStep) :
    OrderInvariant tc ptr v (hist ++ [m]) (m.after tc) := by
  have hm : m.initIndex? = none := Moment.initIndex?_of_step_ne hne
  have hptr := hI.selected hrun
  obtain ⟨c, hchange, hafter⟩ := Moment.after_process tc h
  have hclock : (m.after tc).isReflowRunning = c.isReflowRunning ∧
      (m.after tc).reflowProcessData = c.reflowProcessData := by
    rcases hafter with heq | heq <;> simp [heq]
  refine ⟨?_, fun hrun' => ?_, fun hrun' => ?_⟩
  · rw [visited_concat_of_none hm]
    exact hI.ordered
  · cases m.runStep tc with
    | goesOn _ _ hsame => rw [hsame, hptr]
    | opens _ hopens =>
      have hidle := hopens.2.1
      simp_all
    | _ => simp_all
  · rw [hclock.2]
    exact (hI.phase hrun).change h hitems hne hchange (hclock.1 ▸ hrun') hclock.2

/-- **Step lemma.** -/
theorem step (m : Moment) (hrun : m.before.isReflowRunning = true)
    (hitems : (m.holder.objects ptr).presetItems = v)
    (hI : OrderInvariant tc ptr v hist m.before) :
    OrderInvariant tc ptr v (hist ++ [m]) (m.after tc) := by
  cases h : m.activity with
  | handle command => exact hI.handle h hrun
  | process freed =>
    by_cases hinit : m.before.reflowProcessData.reflowStep = .kInitStep
    · have hselected : m.before.activePreset ≠ none := by simp [hI.selected hrun]
      exact hI.init ⟨⟨freed, h⟩, hrun, hselected, hinit⟩ hitems
    · exact hI.process h hrun hitems hinit

/-- A run begins with no stage entered. -/
theorem opened {start : Moment} (hstart : start.OpensRun ptr)
    (hinv : RunInvariant start.holder start.before) :
    OrderInvariant tc ptr v [] (start.after tc) := by
  obtain ⟨hactivity, hidle, hptr⟩ := hstart
  obtain ⟨o, heffect, hafter⟩ := Moment.after_handle tc hactivity
  rw [hafter]
  cases heffect with
  | startUnselected hnone => simp [hptr] at hnone
  | start => exact ⟨.nil, fun _ => hptr, fun _ => .fresh rfl (hinv.idle_index hidle) rfl⟩

/-- Before `handleInitStep` the last visit was to this stage, or to the one before, which is
over. -/
theorem visit_of_init {i : ℕ} (hI : OrderInvariant tc ptr v hist m.before)
    (hm : m.initIndex? = some i) :
    (visited hist = [] ∧ i = 0) ∨ Visiting i (fun _ => True) hist ∨
      ∃ k, i = k + 1 ∧ Visiting k (LeftBehind tc v k) hist := by
  obtain ⟨hinit, rfl⟩ := Moment.initIndex?_eq_some_iff.mp hm
  have hstep := hinit.step
  cases hI.phase hinit.running with
  | fresh _ hindex hnone => exact .inl ⟨hnone, hindex⟩
  | rewound _ hvisit => exact .inr (.inl hvisit)
  | movedOn k _ hindex hvisit => exact .inr (.inr ⟨k, hindex, hvisit⟩)
  | _ => simp_all

/-- A run that ends by itself was at its last stage. -/
theorem mem_visited_of_ended (hI : OrderInvariant tc ptr v hist m.before)
    (hrun : m.before.isReflowRunning = true) (hitems : (m.holder.objects ptr).presetItems = v)
    (hidle : (m.after tc).isReflowRunning = false) (hstop : m.activity ≠ .handle .stopReflow) :
    ∀ i < v.size, i ∈ visited (hist ++ [m]) := by
  have hptr := hI.selected hrun
  cases h : m.activity with
  | handle command =>
    have hcommand : command ≠ .stopReflow := by
      rintro rfl
      exact hstop h
    have hon := (Moment.after_handle_of_running tc h hcommand hrun hptr).1
    rw [hidle] at hon
    cases hon
  | process freed =>
    obtain ⟨c, hchange, hafter⟩ := Moment.after_process tc h
    have hc : c.isReflowRunning = false := by
      rcases hafter with heq | heq <;> simpa [heq] using hidle
    cases hchange with
    | refl =>
      rw [hrun] at hc
      cases hc
    | single hstep =>
      cases hstep with
      | @finish ptr' _ hptr' hover hle =>
        obtain rfl : ptr = ptr' := Option.some.inj (hptr.symm.trans hptr')
        have hvisit := (hI.phase hrun).leftBehind h hitems hover
        have hne : m.before.reflowProcessData.reflowStep ≠ .kInitStep := by
          rcases hover with ⟨hpreheat, -⟩ | hcompleted
          · simp [hpreheat]
          · simp [hcompleted]
        have hordered : Ordered (visited (hist ++ [m])) := by
          rw [visited_concat_of_none (Moment.initIndex?_of_step_ne hne)]
          exact hI.ordered
        intro i hi
        have hlast : v.size ≤ m.before.reflowProcessData.activeStageIndex + 1 := hitems ▸ hle
        exact hordered.mem_of_le hvisit.mem_visited i (by omega)
      | _ => simp_all [entered, movedOn, soaking, soaked]

end OrderInvariant

/-- The stages of a run, as `handleInitStep` is executed for them in these moments. -/
structure StagesInOrder (tc : Toolchain) (v : Vec StageItem) (run : List Moment) : Prop where
  /-- the indices begin at 0, and each equals its predecessor or exceeds it by one -/
  ordered : Ordered (visited run)
  /-- an index exceeds its predecessor only if that stage was skipped or soaked on its last visit -/
  left : ∀ past m later i, run = past ++ m :: later → m.initIndex? = some i →
    (visited past = [] ∧ i = 0) ∨ Visiting i (fun _ => True) past ∨
      ∃ k, i = k + 1 ∧ Visiting k (LeftBehind tc v k) past
  /-- a run that ends without a `StopReflow` has been through all stages -/
  complete : ∀ past m, run = past ++ [m] → (m.after tc).isReflowRunning = false →
    m.activity ≠ .handle .stopReflow → ∀ i < v.size, i ∈ visited run

namespace Server

variable {tc : Toolchain} {s : Server} {ops : List Operation} {pre run rest : List Moment}
  {start : Moment} {ptr : PresetPtr} {v : Vec StageItem}

/-- **Run lemma.** -/
theorem orderInvariant_history (hs : Constructed s)
    (hhistory : s.history tc ops = pre ++ start :: (run ++ rest)) (hstart : start.OpensRun ptr)
    (hrun : ∀ m ∈ run, m.before.isReflowRunning = true)
    (hitems : ∀ m ∈ run, (m.holder.objects ptr).presetItems = v) :
    Ordered (visited run) ∧
      ∀ past m later, run = past ++ m :: later → OrderInvariant tc ptr v past m.before := by
  have hmem : start ∈ s.history tc ops := by simp [hhistory]
  have hopened : OrderInvariant tc ptr v [] (start.after tc) :=
    .opened hstart (runInvariant_history hs ops start hmem)
  obtain ⟨c, hpath⟩ : ∃ c, (ReflowProcessController.moments tc).Path (start.after tc) run c := by
    have hwhole : (ReflowProcessController.moments tc).Path s.reflowController
        (s.history tc ops) _ := history_path s ops
    rw [hhistory] at hwhole
    obtain ⟨_, -, hfrom⟩ := hwhole.split
    obtain ⟨c, hrunPath, -⟩ := hfrom.cons_inv.2.split
    exact ⟨c, hrunPath⟩
  have hbetween : ∀ hist c c', SameRun c c' → OrderInvariant tc ptr v hist c →
      OrderInvariant tc ptr v hist c' := fun _ _ _ hsame hI => hI.sameRun hsame
  have hnext : ∀ hist, ∀ m ∈ run, OrderInvariant tc ptr v hist m.before →
      OrderInvariant tc ptr v (hist ++ [m]) (m.after tc) :=
    fun _ m hm hI => hI.step m (hrun m hm) (hitems m hm)
  exact ⟨(hpath.rule hbetween hnext hopened).ordered,
    fun past m later heq => hpath.rule_before hbetween hnext heq hopened⟩

/-- **The stages of every run are entered in order, and none is left out**, as long as they are
not edited. -/
theorem stages_in_order (hs : Constructed s)
    (hhistory : s.history tc ops = pre ++ start :: (run ++ rest)) (hstart : start.OpensRun ptr)
    (hrun : ∀ m ∈ run, m.before.isReflowRunning = true)
    (hitems : ∀ m ∈ run, (m.holder.objects ptr).presetItems = v) : StagesInOrder tc v run := by
  obtain ⟨hordered, hbefore⟩ := orderInvariant_history hs hhistory hstart hrun hitems
  refine ⟨hordered, ?_, ?_⟩
  · intro past m later i heq hm
    exact (hbefore past m later heq).visit_of_init hm
  · intro past m heq hidle hstop
    have hin : m ∈ run := by simp [heq]
    have hI := hbefore past m [] heq
    rw [heq]
    exact hI.mem_visited_of_ended (hrun m hin) (hitems m hin) hidle hstop

/-- Two stages without heating, selected and started in one tick. -/
def skippedRun : List Operation :=
  [.addNewPreset "lead", .addStageItem 4 ⟨0, 0⟩, .addStageItem 4 ⟨0, 0⟩,
    .postCommand (.selectPreset 4), .postCommand .startReflow,
    silentTick, silentTick, silentTick, silentTick]

def skippedHistory : List Moment := make.history .sample skippedRun

/-- The moments of the run. -/
def skippedMoments : List Moment := skippedHistory.drop 2

/-- The stages it is made of. -/
def skippedStages : Vec StageItem :=
  (((operations .sample).run make skippedRun).presetsHolder.objects 0).presetItems

/-- Its start. -/
def skippedStart : Moment := skippedHistory.get ⟨1, by decide⟩

theorem skippedRun_history :
    make.history .sample skippedRun =
      skippedHistory.take 1 ++ skippedStart :: (skippedMoments ++ []) := rfl

theorem skippedRun_opens : skippedStart.OpensRun 0 := ⟨rfl, by decide, by decide⟩

theorem skippedRun_running : ∀ m ∈ skippedMoments, m.before.isReflowRunning = true := by decide

theorem skippedRun_items :
    ∀ m ∈ skippedMoments, (m.holder.objects 0).presetItems = skippedStages := by
  have hfour : skippedMoments = [skippedHistory.get ⟨2, by decide⟩,
      skippedHistory.get ⟨3, by decide⟩, skippedHistory.get ⟨4, by decide⟩,
      skippedHistory.get ⟨5, by decide⟩] := rfl
  rw [hfour]
  simp only [List.forall_mem_cons, List.not_mem_nil, false_implies, implies_true, and_true]
  exact ⟨rfl, rfl, rfl, rfl⟩

/-- Both stages were entered. -/
theorem stages_in_order_skippedRun :
    visited skippedMoments = [0, 1] ∧ StagesInOrder .sample skippedStages skippedMoments :=
  ⟨by decide, stages_in_order constructed_make skippedRun_history skippedRun_opens
    skippedRun_running skippedRun_items⟩

end Server

end ReflowTable
