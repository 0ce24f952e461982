import Mathlib
import Traversal.Main
import Traversal.Proofs.QueryFiles
import Traversal.Proofs.VariableValues

/-! Layers of settings. Each field of the settings of a run is what the highest layer says that has a say
in it, and no layer touches another field. -/
namespace Traversal.Cli.Layers
open Text

/-! ## Variables -/

variable {α : Type} {files : Files} {environment : Environment} {choices : Choices} {name : String}
  {meaning : List Char → α → Prop}

/-- What a variable has to say, given what its values mean: nothing, if it is not set. -/
inductive Speaks (environment : Environment) (name : String) (meaning : List Char → α → Prop) :
    Option α → Prop
  | unset (absent : environment name = none) : Speaks environment name meaning none
  | set {text : String} {core : List Char} {value : α} (present : environment name = some text)
      (padded : Padded core text.toList) (means : meaning core value) :
      Speaks environment name meaning (some value)

/-- A variable is set to a text that means nothing. -/
def Senseless (environment : Environment) (name : String) (meaning : List Char → α → Prop)
    (text : String) : Prop :=
  environment name = some text ∧ ¬ ∃ core value, Padded core text.toList ∧ meaning core value

section

variable {read : String → Option α}
  (reads : ∀ text value, read text = some value ↔ ∃ core, Padded core text.toList ∧ meaning core value)

include reads

theorem speaks_iff (said : Option α) : Speaks environment name meaning said ↔
    match environment name with
    | none => said = none
    | some text => ∃ value, read text = some value ∧ said = some value := by
  constructor
  · rintro (absent | ⟨present, padded, means⟩)
    · rw [absent]
    · rw [present]
      exact ⟨_, (reads _ _).mpr ⟨_, padded, means⟩, rfl⟩
  · cases present : environment name with
    | none =>
      rintro rfl
      exact .unset present
    | some text =>
      rintro ⟨value, found, rfl⟩
      obtain ⟨core, padded, means⟩ := (reads _ _).mp found
      exact .set present padded means

/-- What a variable has to say depends on its text alone. -/
theorem Speaks.unique {environment' : Environment} {said said' : Option α}
    (speaks : Speaks environment name meaning said) (speaks' : Speaks environment' name meaning said')
    (same : environment name = environment' name) : said = said' := by
  rw [speaks_iff reads] at speaks speaks'
  rw [← same] at speaks'
  cases present : environment name with
  | none =>
    rw [present] at speaks speaks'
    exact speaks.trans speaks'.symm
  | some text =>
    rw [present] at speaks speaks'
    obtain ⟨value, found, rfl⟩ := speaks
    obtain ⟨value', found', rfl⟩ := speaks'
    exact found.symm.trans found'

theorem variableOr_eq_ok_iff (hint : String) (fallback value : α) :
    variableOr environment name read hint fallback = .ok value ↔
      ∃ said, Speaks environment name meaning said ∧ value = said.getD fallback := by
  simp only [speaks_iff reads, variableOr]
  cases environment name with
  | none => simp [eq_comm]
  | some text => cases found : read text <;> simp [found, eq_comm]

theorem variableOr_eq_error_iff (hint : String) (fallback : α) (report : Report) :
    variableOr environment name read hint fallback = .error report ↔
      ∃ text, Senseless environment name meaning text ∧ report = invalidVariable name text hint := by
  have senseless (text : String) : Senseless environment name meaning text ↔
      environment name = some text ∧ read text = none := by
    simp only [Senseless, Option.eq_none_iff_forall_ne_some, ne_eq, reads, not_exists]
    exact and_congr_right fun _ => forall_comm
  simp only [senseless, variableOr]
  cases environment name with
  | none => simp
  | some text => cases found : read text <;> simp [found, eq_comm]

end

/-! ## Layers -/

section

variable {ε β : Type} {first : Except ε α} {next : α → Except ε β}

theorem bind_eq_ok_iff {result : β} :
    (first >>= next) = .ok result ↔ ∃ value, first = .ok value ∧ next value = .ok result := by
  cases first with
  | error failure => simp [bind, Except.bind]
  | ok value => simp [bind, Except.bind]

theorem bind_eq_error_iff {failure : ε} :
    (first >>= next) = .error failure ↔
      first = .error failure ∨ ∃ value, first = .ok value ∧ next value = .error failure := by
  cases first with
  | error failure => simp [bind, Except.bind]
  | ok value => simp [bind, Except.bind]

end

/-- The settings on which the other layers lie: those of the file that the command line names, or the
usual ones if it names none. -/
inductive Base (files : Files) (choices : Choices) : Settings → Prop
  | usual (unnamed : choices.config = none) : Base files choices {}
  | loaded {path : String} {settings : Settings} (named : choices.config = some path)
      (loads : Settings.load files path = .ok settings) : Base files choices settings

theorem baseSettings_eq_ok_iff (base : Settings) :
    baseSettings files choices = .ok base ↔ Base files choices base := by
  constructor
  · intro found
    unfold baseSettings at found
    cases named : choices.config with
    | none =>
      rw [named] at found
      cases found
      exact .usual named
    | some path =>
      rw [named] at found
      cases loads : Settings.load files path with
      | ok settings =>
        simp only [loads, Except.ok.injEq] at found
        subst found
        exact .loaded named loads
      | error error =>
        simp only [loads, reduceCtorEq] at found
  · rintro (unnamed | ⟨named, loads⟩)
    · rw [baseSettings, unnamed]
    · rw [baseSettings, named]
      simp only [loads]

/-- The report about a settings file that cannot be loaded. -/
def unloadable (path : String) (error : LoadError) : Report :=
  ⟨s!"failed to load config `{path}`", some error.message,
    some "config files must end in .toml or .json"⟩

theorem baseSettings_eq_error_iff (report : Report) :
    baseSettings files choices = .error report ↔ ∃ path error, choices.config = some path ∧
      Settings.load files path = .error error ∧ report = unloadable path error := by
  constructor
  · intro found
    unfold baseSettings at found
    cases named : choices.config with
    | none =>
      rw [named] at found
      cases found
    | some path =>
      rw [named] at found
      cases loads : Settings.load files path with
      | ok settings => simp only [loads, reduceCtorEq] at found
      | error error =>
        simp only [loads, Except.error.injEq] at found
        exact ⟨path, error, rfl, loads, found.symm⟩
  · rintro ⟨path, error, named, loads, rfl⟩
    rw [baseSettings, named]
    simp only [loads]
    rfl

/-- The settings of a run, field by field: what the command line says, or else what the environment
says, or else what the base says. A flag can only switch on, and the environment has no say in whether
the result is aggregated. -/
structure Layered (environment : Environment) (choices : Choices) (base settings : Settings) : Prop where
  rules : settings.rules =
    ((choices.rules.or (environment rulesVariable)).map RuleSet.parse).getD base.rules
  ceiling : ∃ count, Speaks environment maxNodeCountVariable CountText count ∧
    settings.maxNodeCount = (choices.maxNodeCount.or count).getD base.maxNodeCount
  keys : ∃ truth, Speaks environment validateStructureVariable TruthText truth ∧
    settings.validateStructure =
      if choices.validateStructure then true else truth.getD base.validateStructure
  aggregate : settings.aggregate = true ↔ choices.aggregate = true ∨ base.aggregate = true

/-- The command line lies over the environment, and both lie over the base. -/
theorem applyChoices_over (rules : Option String) (count : Option Nat) (truth : Option Bool)
    (base : Settings) :
    applyChoices choices ⟨(rules.map RuleSet.parse).getD base.rules, count.getD base.maxNodeCount,
        truth.getD base.validateStructure, base.aggregate⟩ =
      ⟨((choices.rules.or rules).map RuleSet.parse).getD base.rules,
        (choices.maxNodeCount.or count).getD base.maxNodeCount,
        if choices.validateStructure then true else truth.getD base.validateStructure,
        choices.aggregate || base.aggregate⟩ := by
  obtain ⟨config, schema, chosen, ceiling, keys, aggregate⟩ := choices
  simp only [applyChoices, Settings.mk.injEq, and_true]
  refine ⟨?_, ?_, ?_⟩
  · cases chosen <;> rfl
  · cases ceiling <;> rfl
  · cases keys <;> rfl

theorem layered_iff (base settings : Settings) : Layered environment choices base settings ↔
    ∃ count, Speaks environment maxNodeCountVariable CountText count ∧
      ∃ truth, Speaks environment validateStructureVariable TruthText truth ∧
        settings = applyChoices choices
          ⟨((environment rulesVariable).map RuleSet.parse).getD base.rules,
            count.getD base.maxNodeCount, truth.getD base.validateStructure, base.aggregate⟩ := by
  simp only [applyChoices_over]
  constructor
  · obtain ⟨rules, ceiling, keys, aggregate⟩ := settings
    rintro ⟨rfl, ⟨count, counted, rfl⟩, ⟨truth, told, rfl⟩, flag⟩
    refine ⟨count, counted, truth, told, congrArg _ ?_⟩
    rw [Bool.eq_iff_iff, Bool.or_eq_true]
    exact flag
  · rintro ⟨count, counted, truth, told, rfl⟩
    exact ⟨rfl, ⟨count, counted, rfl⟩, ⟨truth, told, rfl⟩, Bool.or_eq_true _ _ ▸ Iff.rfl⟩

private theorem return_eq_ok_iff (settings settings' : Settings) :
    (pure settings' : Except Report Settings) = .ok settings ↔ settings = settings' :=
  ⟨fun same => (Except.ok.inj same).symm, fun same => congrArg Except.ok same.symm⟩

theorem resolve_eq_ok_iff (settings : Settings) : resolve files environment choices = .ok settings ↔
    ∃ base, Base files choices base ∧ Layered environment choices base settings := by
  simp only [resolve, applyEnvironment, bind_eq_ok_iff, baseSettings_eq_ok_iff,
    variableOr_eq_ok_iff countValue_eq_some_iff, variableOr_eq_ok_iff truthValue_eq_some_iff,
    layered_iff, return_eq_ok_iff]
  constructor
  · rintro ⟨base, lies, _, ⟨_, ⟨count, counted, rfl⟩, _, ⟨truth, told, rfl⟩, rfl⟩, rfl⟩
    exact ⟨base, lies, count, counted, truth, told, rfl⟩
  · rintro ⟨base, lies, count, counted, truth, told, rfl⟩
    exact ⟨base, lies, _, ⟨_, ⟨count, counted, rfl⟩, _, ⟨truth, told, rfl⟩, rfl⟩, rfl⟩

/-- Of the layers in which something is wrong, the first is reported: the file, then the ceiling in the
environment, then the switch in the environment. -/
theorem resolve_eq_error_iff (report : Report) :
    resolve files environment choices = .error report ↔
      (∃ path error, choices.config = some path ∧ Settings.load files path = .error error ∧
        report = unloadable path error) ∨
      (∃ base, Base files choices base) ∧
        ((∃ text, Senseless environment maxNodeCountVariable CountText text ∧
          report = invalidVariable maxNodeCountVariable text "use a non-negative integer") ∨
        (∃ count, Speaks environment maxNodeCountVariable CountText count) ∧
          ∃ text, Senseless environment validateStructureVariable TruthText text ∧
            report = invalidVariable validateStructureVariable text "use true/false or 1/0") := by
  have returned (settings : Settings) : ¬ (pure settings : Except Report Settings) = .error report := by
    intro wrong
    cases wrong
  simp only [resolve, applyEnvironment, bind_eq_error_iff, baseSettings_eq_error_iff,
    baseSettings_eq_ok_iff, variableOr_eq_ok_iff countValue_eq_some_iff,
    variableOr_eq_error_iff countValue_eq_some_iff, variableOr_eq_error_iff truthValue_eq_some_iff,
    returned, and_false, exists_false, or_false]
  refine or_congr Iff.rfl ?_
  constructor
  · rintro ⟨base, lies, senseless | ⟨_, ⟨count, counted, -⟩, senseless⟩⟩
    · exact ⟨⟨base, lies⟩, Or.inl senseless⟩
    · exact ⟨⟨base, lies⟩, Or.inr ⟨⟨count, counted⟩, senseless⟩⟩
  · rintro ⟨⟨base, lies⟩, senseless | ⟨⟨count, counted⟩, senseless⟩⟩
    · exact ⟨base, lies, Or.inl senseless⟩
    · exact ⟨base, lies, Or.inr ⟨_, ⟨count, counted, rfl⟩, senseless⟩⟩

/-! ## What no layer can do -/

theorem Base.loads {base : Settings} {path : String} (lies : Base files choices base)
    (named : choices.config = some path) : Settings.load files path = .ok base := by
  cases lies with
  | usual unnamed =>
    rw [unnamed] at named
    cases named
  | loaded named' loads =>
    cases named'.symm.trans named
    exact loads

theorem Speaks.not_senseless {said : Option α} {text : String}
    (speaks : Speaks environment name meaning said) : ¬ Senseless environment name meaning text := by
  rintro ⟨present, meaningless⟩
  cases speaks with
  | unset absent =>
    rw [absent] at present
    cases present
  | set present' padded means =>
    cases present'.symm.trans present
    exact meaningless ⟨_, _, padded, means⟩

/-- There are no settings if and only if something is wrong in a layer, even if a higher layer would have
made nothing of it. -/
theorem exists_report_iff : (∃ report, resolve files environment choices = .error report) ↔
    (∃ path error, choices.config = some path ∧ Settings.load files path = .error error) ∨
      (∃ text, Senseless environment maxNodeCountVariable CountText text) ∨
        ∃ text, Senseless environment validateStructureVariable TruthText text := by
  constructor
  · rintro ⟨report, failed⟩
    rcases (resolve_eq_error_iff report).mp failed with
      ⟨path, error, named, fails, -⟩ | ⟨-, ⟨text, senseless, -⟩ | ⟨-, text, senseless, -⟩⟩
    · exact Or.inl ⟨path, error, named, fails⟩
    · exact Or.inr (Or.inl ⟨text, senseless⟩)
    · exact Or.inr (Or.inr ⟨text, senseless⟩)
  · intro wrong
    cases resolved : resolve files environment choices with
    | error report => exact ⟨report, rfl⟩
    | ok settings =>
      obtain ⟨base, lies, layered⟩ := (resolve_eq_ok_iff settings).mp resolved
      obtain ⟨count, counted, -⟩ := layered.ceiling
      obtain ⟨truth, told, -⟩ := layered.keys
      rcases wrong with ⟨path, error, named, fails⟩ | ⟨text, senseless⟩ | ⟨text, senseless⟩
      · cases (lies.loads named).symm.trans fails
      · exact absurd senseless counted.not_senseless
      · exact absurd senseless told.not_senseless

/-- Two runs whose layers have the same to say about a field have it in common, whatever else they have
to say. -/
structure Separate (environment environment' : Environment) (choices choices' : Choices)
    (base base' settings settings' : Settings) : Prop where
  rules : choices.rules = choices'.rules → environment rulesVariable = environment' rulesVariable →
    base.rules = base'.rules → settings.rules = settings'.rules
  ceiling : choices.maxNodeCount = choices'.maxNodeCount →
    environment maxNodeCountVariable = environment' maxNodeCountVariable →
    base.maxNodeCount = base'.maxNodeCount → settings.maxNodeCount = settings'.maxNodeCount
  keys : choices.validateStructure = choices'.validateStructure →
    environment validateStructureVariable = environment' validateStructureVariable →
    base.validateStructure = base'.validateStructure →
    settings.validateStructure = settings'.validateStructure
  aggregate : choices.aggregate = choices'.aggregate → base.aggregate = base'.aggregate →
    settings.aggregate = settings'.aggregate

theorem Layered.separate {environment' : Environment} {choices' : Choices}
    {base base' settings settings' : Settings} (layered : Layered environment choices base settings)
    (layered' : Layered environment' choices' base' settings') :
    Separate environment environment' choices choices' base base' settings settings' := by
  obtain ⟨count, counted, ceiling⟩ := layered.ceiling
  obtain ⟨count', counted', ceiling'⟩ := layered'.ceiling
  obtain ⟨truth, told, keys⟩ := layered.keys
  obtain ⟨truth', told', keys'⟩ := layered'.keys
  refine ⟨fun chosen set below => ?_, fun chosen set below => ?_, fun chosen set below => ?_,
    fun chosen below => ?_⟩
  · rw [layered.rules, layered'.rules, chosen, set, below]
  · rw [ceiling, ceiling', counted.unique countValue_eq_some_iff counted' set, chosen, below]
  · rw [keys, keys', told.unique truthValue_eq_some_iff told' set, chosen, below]
  · rw [Bool.eq_iff_iff, layered.aggregate, layered'.aggregate, chosen, below]

theorem layered_of_resolve {base settings : Settings} (lies : Base files choices base)
    (resolved : resolve files environment choices = .ok settings) :
    Layered environment choices base settings := by
  obtain ⟨base', lies', layered⟩ := (resolve_eq_ok_iff settings).mp resolved
  rw [← baseSettings_eq_ok_iff] at lies lies'
  cases lies.symm.trans lies'
  exact layered

/-- The settings of a run follow its layers, field by field. There are none if and only if the file does
not load or a variable is set to a text without a meaning. Otherwise every field is what the highest
layer with a say in it has to say, and what the layers have to say about one field is nothing to
another. -/
theorem settings_follow_their_layers (files : Files) (environment : Environment) (choices : Choices) :
    ((∃ report, resolve files environment choices = .error report) ↔
      (∃ path error, choices.config = some path ∧ Settings.load files path = .error error) ∨
        (∃ text, Senseless environment maxNodeCountVariable CountText text) ∨
          ∃ text, Senseless environment validateStructureVariable TruthText text) ∧
    (∀ settings, resolve files environment choices = .ok settings ↔
      ∃ base, Base files choices base ∧ Layered environment choices base settings) ∧
    ∀ files' environment' choices' base base' settings settings',
      Base files choices base → Base files' choices' base' →
      resolve files environment choices = .ok settings →
      resolve files' environment' choices' = .ok settings' →
      Separate environment environment' choices choices' base base' settings settings' := by
  refine ⟨exists_report_iff, resolve_eq_ok_iff, ?_⟩
  intro files' environment' choices' base base' settings settings' lies lies' resolved resolved'
  exact (layered_of_resolve lies resolved).separate (layered_of_resolve lies' resolved')

/-- A flag prevails over a variable, a variable over a file, and none of them touches the field of
another. A senseless variable is an error even if a flag prevails over it. -/
theorem flag_variable_and_file_make_settings :
    let files : Files := fun _ => .ok "max_node_count = 10\naggregate = true\n".toUTF8
    let environment : Environment := fun name =>
      if name = rulesVariable then some "loop"
      else if name = validateStructureVariable then some "\tYes" else none
    let choices : Choices := { config := some "tdsl.toml", rules := some "none" }
    resolve files environment choices = .ok ⟨RuleSet.none, 10, true, true⟩ ∧
      (∃ report, resolve files (fun _ => some "lots") { maxNodeCount := some 5 } = .error report) ∧
      ∀ settings, resolve files environment { choices with rules := none, maxNodeCount := some 20 } =
        .ok settings → settings.validateStructure = true ∧ settings.aggregate = true := by
  intro files environment choices
  have content : files.readText "tdsl.toml" = .ok "max_node_count = 10\naggregate = true\n" :=
    Files.readText_of_bytes rfl
  have extension : Format.ofExtension (Path.extension "tdsl.toml") = some .toml := by decide
  have decoded : Format.toml.decode Document.Decode.settings "max_node_count = 10\naggregate = true\n" =
      some ⟨RuleSet.all, 10, false, true⟩ := by cbv
  have loads : Settings.load files "tdsl.toml" = .ok ⟨RuleSet.all, 10, false, true⟩ := by
    simp only [Settings.load, load, content, extension, decoded]
  have padded : Padded ['Y', 'e', 's'] "\tYes".toList :=
    ⟨['\t'], [], by decide, isSpace_of_layout (by simp [Layout]), by simp⟩
  have switch : Speaks environment validateStructureVariable TruthText (some true) :=
    .set (show environment validateStructureVariable = some "\tYes" by decide) padded
      ⟨"yes", by decide, by decide⟩
  obtain ⟨-, resolves, separate⟩ := settings_follow_their_layers files environment choices
  have resolved : resolve files environment choices = .ok ⟨RuleSet.none, 10, true, true⟩ :=
    (resolves _).mpr ⟨_, .loaded rfl loads, by decide, ⟨none, .unset (by decide), rfl⟩,
      ⟨some true, switch, rfl⟩, by decide⟩
  refine ⟨resolved, ?_, fun settings resolved' => ?_⟩
  · obtain ⟨fails, -⟩ := settings_follow_their_layers files (fun _ => some "lots") { maxNodeCount := some 5 }
    apply fails.mpr
    refine Or.inr (Or.inl ⟨"lots", rfl, ?_⟩)
    rintro ⟨core, count, padded, counts⟩
    have found := (countValue_eq_some_iff "lots" count).mpr ⟨core, padded, counts⟩
    rw [show countValue "lots" = none by decide] at found
    cases found
  · have apart := separate files environment _ _ _ _ _ (.loaded rfl loads) (.loaded rfl loads)
      resolved resolved'
    exact ⟨(apart.keys rfl rfl rfl).symm, (apart.aggregate rfl rfl).symm⟩

end Traversal.Cli.Layers
