import Mathlib.Data.Sym.Sym2
import Traversal.Proofs.Gates

/-! What a schema says. Compilations learn no more of it than which types may be connected, in either
direction, with which labels, and which properties each type has. The order of all this, repetitions
and the kinds of edges make no difference, and a schema that says more lets more pass. -/
namespace Traversal
open Compiler Compiler.State

/-- A rule joins two types whichever of them is its source. -/
theorem EdgeRule.joins_iff (rule : EdgeRule) (a b : String) :
    rule.joins a b = true ↔ s(rule.source, rule.target) = s(a, b) := by
  simp [EdgeRule.joins]

namespace Schema

/-- An edge may join the two types. -/
def Joins (schema : Schema) (a b : String) : Prop :=
  ∃ rule ∈ schema.edges, s(rule.source, rule.target) = s(a, b)

/-- An edge with the label may join the two types. -/
def Connects (schema : Schema) (a b label : String) : Prop :=
  ∃ rule ∈ schema.edges, s(rule.source, rule.target) = s(a, b) ∧ rule.label = label

instance (schema : Schema) (a b : String) : Decidable (schema.Joins a b) :=
  inferInstanceAs (Decidable (∃ rule ∈ schema.edges, _))

instance (schema : Schema) (a b label : String) : Decidable (schema.Connects a b label) :=
  inferInstanceAs (Decidable (∃ rule ∈ schema.edges, _))

/-- All that a schema says about edges: which types they may join, in no order, with which label. -/
def connections (schema : Schema) : Set (Sym2 String × String) :=
  {connection | ∃ rule ∈ schema.edges, (s(rule.source, rule.target), rule.label) = connection}

/-- All that a schema says about a type: its properties, in no order, if it knows the type. -/
def propertySet (schema : Schema) (type : String) : Option (Set String) :=
  (schema.properties type).map fun known => {key | key ∈ known}

theorem connects_iff_mem {schema : Schema} {a b label : String} :
    schema.Connects a b label ↔ (s(a, b), label) ∈ schema.connections := by
  simp [Connects, connections]

theorem joins_iff_connects {schema : Schema} {a b : String} :
    schema.Joins a b ↔ ∃ label, schema.Connects a b label := by
  constructor
  · rintro ⟨rule, member, same⟩
    exact ⟨rule.label, rule, member, same, rfl⟩
  · rintro ⟨label, rule, member, same, -⟩
    exact ⟨rule, member, same⟩

/-! ## Objections -/

variable (schema : Schema)

theorem edgeRules_isEmpty_iff (a b : String) :
    (schema.edgeRules a b).isEmpty = true ↔ ¬ schema.Joins a b := by
  simp [edgeRules, Joins, EdgeRule.joins_iff]

theorem any_edgeRules_iff (a b label : String) :
    (schema.edgeRules a b).any (·.label == label) = true ↔ schema.Connects a b label := by
  simp [edgeRules, Connects, EdgeRule.joins_iff]

/-- One objection to an edge that may not be, whatever its labels. If it may be, one for each of its
labels, as often as given, that no such edge has. -/
def objectionsToEdge (source target : String) (labels : List String) : List SchemaError :=
  if schema.Joins source target then
    (labels.filter fun label => ¬ schema.Connects source target label).map
      (.noEdgeLabel source target ·)
  else [.noEdge source target]

/-- One objection to keys of an unknown type, even if there are none. If the type is known, one for
each key, as often as given, that is none of its properties. -/
def objectionsToKeys (type : String) (keys : List String) : List SchemaError :=
  match schema.properties type with
  | none => [.unknownType type]
  | some known => (keys.filter (· ∉ known)).map (.unknownKey · type)

theorem edgeErrors_view (source target : String) (labels : List String) :
    edgeErrors schema.view source target labels =
      schema.objectionsToEdge source target labels := by
  by_cases joins : schema.Joins source target
  · have rules : (schema.edgeRules source target).isEmpty = false :=
      Bool.eq_false_iff.mpr fun none => (edgeRules_isEmpty_iff schema source target).mp none joins
    have unlabelled (label : String) : (!(schema.edgeRules source target).any (·.label == label)) =
        decide (¬ schema.Connects source target label) := by
      rw [decide_not]
      exact congrArg Bool.not (Bool.eq_iff_iff.mpr
        ((any_edgeRules_iff schema source target label).trans decide_eq_true_iff.symm))
    simp only [edgeErrors, view, rules, objectionsToEdge, if_pos joins, unlabelled]
    rfl
  · have rules := (edgeRules_isEmpty_iff schema source target).mpr joins
    simp only [edgeErrors, view, rules, objectionsToEdge, if_true, if_neg joins]

theorem keyErrors_view (type : String) (keys : List String) :
    keyErrors schema.view type keys = schema.objectionsToKeys type keys := by
  unfold keyErrors objectionsToKeys
  change (match schema.properties type with | none => _ | some known => _) = _
  cases schema.properties type with
  | none => rfl
  | some known => simp

theorem objectionsToEdge_eq_nil_iff {source target : String} {labels : List String} :
    schema.objectionsToEdge source target labels = [] ↔
      schema.Joins source target ∧ ∀ label ∈ labels, schema.Connects source target label := by
  unfold objectionsToEdge
  split <;> simp_all [List.filter_eq_nil_iff]

theorem objectionsToKeys_eq_nil_iff {type : String} {keys : List String} :
    schema.objectionsToKeys type keys = [] ↔
      ∃ known, schema.properties type = some known ∧ ∀ key ∈ keys, key ∈ known := by
  unfold objectionsToKeys
  cases schema.properties type <;> simp [List.filter_eq_nil_iff]

/-! ## Schemas that say the same -/

section

variable {schema} {schema' : Schema}

theorem edgeErrors_of_connections (same : schema.connections = schema'.connections) :
    edgeErrors schema.view = edgeErrors schema'.view := by
  have connects (a b label : String) : schema.Connects a b label ↔ schema'.Connects a b label := by
    rw [connects_iff_mem, connects_iff_mem, same]
  have joins (a b : String) : schema.Joins a b ↔ schema'.Joins a b := by
    rw [joins_iff_connects, joins_iff_connects]
    exact exists_congr (connects a b)
  funext source target labels
  rw [edgeErrors_view, edgeErrors_view]
  simp only [objectionsToEdge, joins, connects]

theorem keyErrors_of_propertySet (same : schema.propertySet = schema'.propertySet) :
    keyErrors schema.view = keyErrors schema'.view := by
  funext type keys
  have answers : schema.propertySet type = schema'.propertySet type := congrFun same type
  unfold propertySet at answers
  rw [keyErrors_view, keyErrors_view]
  unfold objectionsToKeys
  cases found : schema.properties type with
  | none =>
    cases found' : schema'.properties type with
    | none => rfl
    | some known' =>
      rw [found, found'] at answers
      cases answers
  | some known =>
    cases found' : schema'.properties type with
    | none =>
      rw [found, found'] at answers
      cases answers
    | some known' =>
      rw [found, found'] at answers
      have members (key : String) : key ∈ known ↔ key ∈ known' :=
        Set.ext_iff.mp (Option.some.inj answers) key
      simp [members]

end

/-! ## Schemas that say more -/

/-- A schema says no more than another. -/
structure Within (schema schema' : Schema) : Prop where
  connections : schema.connections ⊆ schema'.connections
  properties : ∀ type known, schema.properties type = some known →
    ∃ known', schema'.properties type = some known' ∧ known ⊆ known'

theorem Within.refl : schema.Within schema where
  connections := Set.Subset.rfl
  properties _ known found := ⟨known, found, List.Subset.refl known⟩

theorem Within.trans {schema schema' schema'' : Schema} (first : schema.Within schema')
    (second : schema'.Within schema'') : schema.Within schema'' where
  connections := Set.Subset.trans first.connections second.connections
  properties type known found := by
    obtain ⟨known', found', within⟩ := first.properties type known found
    obtain ⟨known'', found'', within'⟩ := second.properties type known' found'
    exact ⟨known'', found'', List.Subset.trans within within'⟩

/-- A compilation that a schema lets pass, a schema that says more lets pass. -/
theorem lenient_of_within {schema schema' : Schema} (within : schema.Within schema')
    (settings : Settings) :
    Lenient ⟨settings, some schema.view⟩ ⟨settings, some schema'.view⟩ where
  edges source target labels passed := by
    change edgeErrors schema.view source target labels = [] at passed
    change edgeErrors schema'.view source target labels = []
    rw [edgeErrors_view, objectionsToEdge_eq_nil_iff] at passed ⊢
    have connects {label : String} (known : schema.Connects source target label) :
        schema'.Connects source target label :=
      connects_iff_mem.mpr (within.connections (connects_iff_mem.mp known))
    obtain ⟨label, known⟩ := joins_iff_connects.mp passed.1
    exact ⟨joins_iff_connects.mpr ⟨label, connects known⟩,
      fun label member => connects (passed.2 label member)⟩
  keys type keys passed := by
    simp only [Context.keyErrors] at passed ⊢
    cases checked : settings.validateStructure with
    | false => rfl
    | true =>
      simp only [checked, keyErrors_view, objectionsToKeys_eq_nil_iff] at passed ⊢
      obtain ⟨known, found, listed⟩ := passed
      obtain ⟨known', found', more⟩ := within.properties type known found
      exact ⟨known', found', fun key member => more (listed key member)⟩
  loop enabled := enabled
  nodeCount enabled := enabled
  ceiling := Nat.le_refl _
  aggregate := rfl

/-- A declaration that adds to a schema: a type with properties, or an edge rule. -/
inductive Declaration
  | node (type : String) (properties : List String)
  | edge (source target label : String) (kind : EdgeKind)
  deriving Repr, DecidableEq

/-- The schema with one more declaration. -/
def declare (schema : Schema) : Declaration → Schema
  | .node type properties => schema.withNode type properties
  | .edge source target label kind => schema.withEdge source target label kind

/-- The schema with more declarations, one after the other. -/
def declareAll (schema : Schema) (declarations : List Declaration) : Schema :=
  declarations.foldl declare schema

@[simp] theorem mem_extend {item : String} {known added : List String} :
    item ∈ extend known added ↔ item ∈ known ∨ item ∈ added := by
  unfold extend
  induction added generalizing known with
  | nil => simp
  | cons head rest ih =>
    rw [List.foldl_cons, ih]
    split
    · rename_i repeated
      have member : head ∈ known := by simpa using repeated
      grind
    · simp [or_assoc]

/-- A declared type has its properties added to those that it had. No other type changes. -/
theorem properties_withNode (type name : String) (added : List String) :
    (schema.withNode type added).properties name =
      if type = name then some (extend ((schema.properties type).getD []) added)
      else schema.properties name := by
  obtain ⟨nodes, edges⟩ := schema
  simp only [withNode, properties]
  induction nodes with
  | nil => by_cases same : type = name <;> simp [addProperties, same]
  | cons head rest ih =>
    obtain ⟨first, known⟩ := head
    rw [addProperties]
    by_cases declared : first = type
    · subst declared
      by_cases same : first = name <;> simp [same]
    · by_cases asked : first = name
      · subst asked
        simp [declared, Ne.symm declared]
      · simp [declared, asked, ih]

theorem within_declare (declaration : Declaration) :
    schema.Within (schema.declare declaration) := by
  cases declaration with
  | node type added =>
    refine ⟨Set.Subset.rfl, fun name known found => ?_⟩
    rw [declare, properties_withNode]
    by_cases same : type = name
    · subst same
      refine ⟨_, if_pos rfl, fun key member => mem_extend.mpr (Or.inl ?_)⟩
      rw [found]
      exact member
    · exact ⟨known, (if_neg same).trans found, List.Subset.refl known⟩
  | edge source target label kind =>
    refine ⟨fun connection member => ?_, fun _ known found => ⟨known, found, List.Subset.refl known⟩⟩
    obtain ⟨rule, member, same⟩ := member
    exact ⟨rule, List.mem_append_left _ member, same⟩

theorem within_declareAll (declarations : List Declaration) :
    schema.Within (schema.declareAll declarations) := by
  induction declarations generalizing schema with
  | nil => exact Within.refl schema
  | cons declaration rest ih => exact (within_declare schema declaration).trans (ih _)

end Schema

/-! ## Compilations -/

/-- Schemas with the same objections lead a compilation through the same states. -/
theorem process_of_objections {view view' : SchemaView} (edges : edgeErrors view = edgeErrors view')
    (keys : keyErrors view = keyErrors view') (settings : Settings) :
    process ⟨settings, some view⟩ = process ⟨settings, some view'⟩ := by
  funext state event
  cases event with
  | vertexEnter label => simp only [process, enterVertex, edges]
  | vertexExit stored reported =>
    simp only [process, exitVertex]
    cases settings.validateStructure <;> cases state.openVertices.head? <;> cases reported <;>
      simp [keys]
  | _ => rfl

/-- A schema acts only as what it says: two schemas with the same connections and the same sets of
properties give every stream the same verdict, errors included. And a stream that is compiled with a
schema is compiled to the same query with every schema that declares more. -/
theorem schema_acts_as_sets (settings : Settings) (events : List Event) (schema : Schema) :
    (∀ schema' : Schema, schema.connections = schema'.connections →
      schema.propertySet = schema'.propertySet →
        compileEvents settings (some schema.view) events =
          compileEvents settings (some schema'.view) events) ∧
      ∀ result, compileEvents settings (some schema.view) events = .ok result →
        ∀ declarations : List Schema.Declaration,
          compileEvents settings (some (schema.declareAll declarations).view) events =
            .ok result := by
  constructor
  · intro schema' connections properties
    have same := process_of_objections (Schema.edgeErrors_of_connections connections)
      (Schema.keyErrors_of_propertySet properties) settings
    simp only [compileEvents, processAll, same]
    rfl
  · intro result compiled declarations
    have within := Schema.within_declareAll schema declarations
    exact compileEvents_of_lenient (Schema.lenient_of_within within settings) compiled

/-- The second schema has an edge turned round, another twice, kinds exchanged, and properties in
another order. -/
theorem rearranged_schema_acts_alike :
    let schema : Schema := ⟨[("a", ["k", "l"])], [⟨"a", "b", "m", .tree⟩, ⟨"b", "c", "n", .tree⟩]⟩
    let schema' : Schema := ⟨[("a", ["l", "k"])],
      [⟨"c", "b", "n", .cousin⟩, ⟨"a", "b", "m", .tree⟩, ⟨"a", "b", "m", .cousin⟩]⟩
    let settings : Settings := { validateStructure := true }
    let stream (key : String) (labels : List String) : List Event := [.vertexEnter "a",
      .vertexExit true (some [key]), .edgeFilter labels, .vertexEnter "b", .vertexExit false none]
    let more : List Schema.Declaration := [.node "a" ["i"], .edge "b" "a" "i" .tree, .node "b" []]
    compileEvents settings (some schema'.view) (stream "i" ["m", "n"]) =
        .error (.schema ["invalid filter key `i` for node type `a`",
          "no edge rule between `a` and `b` with label `n`"]) ∧
      ∃ result, compileEvents settings (some schema.view) (stream "k" ["m"]) = .ok result ∧
        compileEvents settings (some (schema.declareAll more).view) (stream "k" ["m"]) =
          .ok result := by
  intro schema schema' settings stream more
  have connections : schema.connections = schema'.connections := by
    ext connection
    simp [Schema.connections, schema, schema', Sym2.eq_swap, or_comm]
  have properties : schema.propertySet = schema'.propertySet := by
    funext type
    by_cases declared : "a" = type
    · simp [Schema.propertySet, Schema.properties, schema, schema', declared, or_comm]
    · simp [Schema.propertySet, Schema.properties, schema, schema', declared]
  obtain ⟨alike, -⟩ := schema_acts_as_sets settings (stream "i" ["m", "n"]) schema
  obtain ⟨-, grown⟩ := schema_acts_as_sets settings (stream "k" ["m"]) schema
  have compiled : compileEvents settings (some schema.view) (stream "k" ["m"]) = .ok
      ⟨Step.textOfList (processAll ⟨settings, some schema.view⟩ {} (stream "k" ["m"])).steps, false,
        2, 1⟩ := by
    rw [compileEvents_eq, verdictOf_eq_ok_iff]
    exact ⟨by decide, by decide, by decide, rfl⟩
  refine ⟨(alike schema' connections properties).symm.trans ?_, _, compiled,
    grown _ compiled more⟩
  rw [compileEvents_eq, verdictOf_eq_schema_iff]
  exact ⟨by decide, by decide, by decide⟩

end Traversal
