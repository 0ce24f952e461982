import Traversal.Proofs.SchemaSets

/-! Schemas from declarations. Types and edge rules accumulate side by side, so it makes no difference
how declarations of the one are mixed with declarations of the other. A type stands where it was first
named, with all properties that were ever given for it, each where it was first given, and edge rules
are only appended. -/
namespace Traversal.Schema

/-! ## What declarations say -/

/-- The type that a declaration names, with the properties that it gives. -/
def Declaration.node? : Declaration → Option (String × List String)
  | .node type properties => some (type, properties)
  | .edge .. => none

/-- The edge rule that a declaration adds. -/
def Declaration.rule? : Declaration → Option EdgeRule
  | .node .. => none
  | .edge source target label kind => some ⟨source, target, label, kind⟩

variable (declarations : List Declaration)

/-- The types that are named, each time with the properties given there. -/
def nodesNamed : List (String × List String) := declarations.filterMap Declaration.node?

/-- The types that are named, as often as they are. -/
def typesNamed : List String := (nodesNamed declarations).map (·.1)

/-- All properties that are given for a type, as often as they are. -/
def propertiesGiven (type : String) : List String :=
  ((nodesNamed declarations).filter (·.1 = type)).flatMap (·.2)

/-- The edge rules that are added, as often as they are. -/
def rulesAdded : List EdgeRule := declarations.filterMap Declaration.rule?

/-! ## Side by side -/

/-- The types with the properties of several additions, one after the other. -/
def addAll (nodes added : List (String × List String)) : List (String × List String) :=
  added.foldl (fun nodes node => addProperties node.1 node.2 nodes) nodes

theorem declareAll_eq (schema : Schema) : schema.declareAll declarations =
    ⟨addAll schema.nodes (nodesNamed declarations), schema.edges ++ rulesAdded declarations⟩ := by
  induction declarations generalizing schema with
  | nil => simp [declareAll, addAll, nodesNamed, rulesAdded]
  | cons declaration rest ih =>
    have behind : schema.declareAll (declaration :: rest) =
        (schema.declare declaration).declareAll rest := rfl
    rw [behind, ih]
    cases declaration with
    | node type properties => rfl
    | edge source target label kind =>
      rw [declare, withEdge, List.append_assoc]
      rfl

/-! ## First mentions -/

variable {known given added names : List String}

theorem extend_nil : extend known [] = known := rfl

theorem extend_cons (item : String) : extend known (item :: added) =
    extend (if item ∈ known then known else known ++ [item]) added := by
  simp [extend]

theorem nodup_extend (once : known.Nodup) : (extend known added).Nodup := by
  induction added generalizing known with
  | nil => exact once
  | cons item rest ih =>
    rw [extend_cons]
    apply ih
    by_cases repeated : item ∈ known
    · rwa [if_pos repeated]
    · rw [if_neg repeated, List.nodup_append]
      refine ⟨once, List.nodup_singleton item, fun earlier member last added => ?_⟩
      rw [List.mem_singleton.mp added]
      exact fun same => repeated (same ▸ member)

theorem eraseDups_concat (item : String) : (given ++ [item]).eraseDups =
    if item ∈ given then given.eraseDups else given.eraseDups ++ [item] := by
  rw [List.eraseDups_append]
  by_cases repeated : item ∈ given
  · simp [List.removeAll, repeated]
  · simp [List.removeAll, repeated, List.eraseDups_cons]

theorem extend_eraseDups (given added : List String) :
    extend given.eraseDups added = (given ++ added).eraseDups := by
  induction added generalizing given with
  | nil => rw [extend_nil, List.append_nil]
  | cons item rest ih =>
    rw [extend_cons]
    simp only [List.mem_eraseDups]
    rw [← eraseDups_concat, ih, List.append_assoc, List.singleton_append]

theorem nodup_eraseDups (given : List String) : given.eraseDups.Nodup := by
  rw [← List.nil_append given, ← extend_eraseDups]
  exact nodup_extend List.nodup_nil

theorem eraseDups_isPrefix : given.eraseDups <+: (given ++ added).eraseDups := by
  rw [List.eraseDups_append]
  exact List.prefix_append _ _

/-! ## Types with their properties -/

/-- Each of some types with its properties. -/
def listed (names : List String) (properties : String → List String) :
    List (String × List String) :=
  names.map fun name => (name, properties name)

variable {properties properties' : String → List String}

theorem listed_cons (name : String) (rest : List String) :
    listed (name :: rest) properties = (name, properties name) :: listed rest properties := rfl

theorem listed_congr (same : ∀ name ∈ names, properties name = properties' name) :
    listed names properties = listed names properties' := by
  apply List.map_congr_left
  intro name member
  rw [same name member]

/-- A type that is not among the names has no properties yet, so it comes behind them with what is
added alone. -/
theorem addProperties_listed {type : String} (once : names.Nodup)
    (unknown : type ∉ names → properties type = []) :
    addProperties type added (listed names properties) =
      listed (extend names [type]) fun name =>
        extend (properties name) (if name = type then added else []) := by
  induction names with
  | nil =>
    have new : properties type = [] := unknown List.not_mem_nil
    rw [extend_cons, extend_nil, if_neg List.not_mem_nil, List.nil_append, listed_cons, if_pos rfl,
      new]
    rfl
  | cons name rest ih =>
    obtain ⟨fresh, once⟩ := List.nodup_cons.mp once
    rw [listed_cons, addProperties]
    by_cases same : name = type
    · subst same
      have others : listed rest properties = listed rest fun other =>
          extend (properties other) (if other = name then added else []) := by
        apply listed_congr
        intro other member
        have unlike : other ≠ name := fun equal => fresh (equal ▸ member)
        rw [if_neg unlike]
        rfl
      rw [if_pos rfl, extend_cons, extend_nil, if_pos List.mem_cons_self, listed_cons, if_pos rfl,
        others]
    · have behind : extend (name :: rest) [type] = name :: extend rest [type] := by
        by_cases known : type ∈ rest <;> simp [extend_cons, extend_nil, known, Ne.symm same]
      have unknown : type ∉ rest → properties type = [] := fun absent =>
        unknown (by simp [absent, Ne.symm same])
      rw [if_neg same, ih once unknown, behind, listed_cons, if_neg same]
      rfl

theorem properties_listed (names : List String) (known : String → List String)
    (edges : List EdgeRule) (type : String) :
    (Schema.mk (listed names known) edges).properties type =
      if type ∈ names then some (known type) else none := by
  rw [Schema.properties]
  induction names with
  | nil => rfl
  | cons name rest ih =>
    rw [listed_cons, List.find?_cons]
    by_cases same : name = type
    · simp [same]
    · simp [same, Ne.symm same, ih]

theorem filter_of_unnamed {type : String} {nodes : List (String × List String)}
    (unnamed : type ∉ nodes.map (·.1)) : nodes.filter (·.1 = type) = [] := by
  rw [List.filter_eq_nil_iff]
  intro node member same
  rw [← of_decide_eq_true same] at unnamed
  exact unnamed (List.mem_map_of_mem member)

/-- The types and properties that stand in a schema without any before. -/
theorem addAll_nil (nodes : List (String × List String)) :
    addAll [] nodes = listed (nodes.map (·.1)).eraseDups fun type =>
      ((nodes.filter (·.1 = type)).flatMap (·.2)).eraseDups := by
  -- From the end, as each addition meets all that stands there already.
  induction nodes using List.reverseRecOn with
  | nil => rfl
  | append_singleton nodes node ih =>
    obtain ⟨type, added⟩ := node
    have last : addAll [] (nodes ++ [(type, added)]) =
        addProperties type added (addAll [] nodes) := List.foldl_concat ..
    have unknown : type ∉ (nodes.map (·.1)).eraseDups →
        ((nodes.filter (·.1 = type)).flatMap (·.2)).eraseDups = [] := by
      rw [List.mem_eraseDups]
      intro unnamed
      rw [filter_of_unnamed unnamed]
      rfl
    rw [last, ih, addProperties_listed (nodup_eraseDups _) unknown, extend_eraseDups,
      List.map_append]
    apply listed_congr
    intro name _
    rw [extend_eraseDups]
    by_cases same : type = name
    · simp [same]
    · simp [same, Ne.symm same]

/-! ## Schemas that begin empty -/

/-- The schema that declarations build. -/
theorem empty_declareAll : empty.declareAll declarations =
    ⟨listed (typesNamed declarations).eraseDups fun type =>
      (propertiesGiven declarations type).eraseDups, rulesAdded declarations⟩ := by
  rw [declareAll_eq, empty, addAll_nil, List.nil_append]
  rfl

theorem mem_typesNamed {type : String} : type ∈ typesNamed declarations ↔
    ∃ added, Declaration.node type added ∈ declarations := by
  simp only [typesNamed, nodesNamed, List.mem_map, List.mem_filterMap]
  constructor
  · rintro ⟨node, ⟨declaration, member, named⟩, rfl⟩
    cases declaration with
    | node type added =>
      cases named
      exact ⟨added, member⟩
    | edge source target label kind => cases named
  · rintro ⟨added, member⟩
    exact ⟨(type, added), ⟨_, member, rfl⟩, rfl⟩

theorem properties_empty_declareAll (type : String) :
    (empty.declareAll declarations).properties type =
      if type ∈ typesNamed declarations then some (propertiesGiven declarations type).eraseDups
      else none := by
  rw [empty_declareAll, properties_listed]
  simp only [List.mem_eraseDups]

theorem types_empty_declareAll : (empty.declareAll declarations).nodes.map (·.1) =
    (typesNamed declarations).eraseDups := by
  rw [empty_declareAll, listed, List.map_map]
  exact List.map_id _

theorem edgeRules_empty_declareAll (a b : String) : (empty.declareAll declarations).edgeRules a b =
    (rulesAdded declarations).filter fun rule => s(rule.source, rule.target) = s(a, b) := by
  rw [empty_declareAll, edgeRules]
  apply List.filter_congr
  intro rule _
  rw [Bool.eq_iff_iff, EdgeRule.joins_iff, decide_eq_true_iff]

/-- All that stands in a schema stands in another in the same place, with more behind it at most. -/
structure Begins (schema schema' : Schema) : Prop where
  types : schema.nodes.map (·.1) <+: schema'.nodes.map (·.1)
  properties : ∀ type known, schema.properties type = some known →
    ∃ known', schema'.properties type = some known' ∧ known <+: known'
  edges : schema.edges <+: schema'.edges

theorem begins_declareAll (more : List Declaration) :
    (empty.declareAll declarations).Begins ((empty.declareAll declarations).declareAll more) := by
  have whole : (empty.declareAll declarations).declareAll more =
      empty.declareAll (declarations ++ more) := List.foldl_append.symm
  have types : typesNamed (declarations ++ more) = typesNamed declarations ++ typesNamed more := by
    simp [typesNamed, nodesNamed]
  rw [whole]
  refine ⟨?_, fun type known found => ?_, ?_⟩
  · rw [types_empty_declareAll, types_empty_declareAll, types]
    exact eraseDups_isPrefix
  · have given : propertiesGiven (declarations ++ more) type =
        propertiesGiven declarations type ++ propertiesGiven more type := by
      simp [propertiesGiven, nodesNamed]
    rw [properties_empty_declareAll] at found ⊢
    by_cases named : type ∈ typesNamed declarations
    · rw [if_pos named] at found
      cases found
      refine ⟨_, if_pos (types ▸ List.mem_append_left _ named), ?_⟩
      rw [given]
      exact eraseDups_isPrefix
    · rw [if_neg named] at found
      cases found
  · rw [empty_declareAll, empty_declareAll, rulesAdded, rulesAdded, List.filterMap_append]
    exact List.prefix_append _ _

/-- Declarations accumulate, and nothing is lost. In a schema that is built from nothing, a type is
unknown if and only if no declaration names it. The properties of a known type are all that were given
for it, each in the place where it was first given, and types stand in the order in which they were first
named. The rules for two types, in either order, are those that were added for the two, in
order and as often as added. More declarations put their own behind all of this. And declarations of
types commute with edge rules, so it makes no difference how the two are mixed. -/
theorem declarations_accumulate (declarations : List Declaration) :
    let schema := empty.declareAll declarations
    (∀ type,
      (schema.properties type = none ↔ ¬ ∃ added, Declaration.node type added ∈ declarations) ∧
      ((∃ added, Declaration.node type added ∈ declarations) →
        schema.properties type = some (propertiesGiven declarations type).eraseDups)) ∧
    schema.nodes.map (·.1) = (typesNamed declarations).eraseDups ∧
    (∀ a b, schema.edgeRules a b = schema.edgeRules b a ∧
      schema.edgeRules a b = (rulesAdded declarations).filter fun rule =>
        s(rule.source, rule.target) = s(a, b)) ∧
    (∀ more, schema.Begins (schema.declareAll more)) ∧
    ∀ schema' : Schema,
      (∀ type added source target label kind,
        (schema'.withNode type added).withEdge source target label kind =
          (schema'.withEdge source target label kind).withNode type added) ∧
      ∀ others, nodesNamed others = nodesNamed declarations →
        rulesAdded others = rulesAdded declarations →
          schema'.declareAll others = schema'.declareAll declarations := by
  intro schema
  refine ⟨fun type => ?_, types_empty_declareAll declarations, fun a b => ?_,
    begins_declareAll declarations, fun schema' => ⟨fun _ _ _ _ _ _ => rfl, ?_⟩⟩
  · rw [← mem_typesNamed, properties_empty_declareAll]
    by_cases named : type ∈ typesNamed declarations <;> simp [named]
  · refine ⟨?_, edgeRules_empty_declareAll declarations a b⟩
    rw [edgeRules_empty_declareAll, edgeRules_empty_declareAll, Sym2.eq_swap]
  · intro others nodes rules
    rw [declareAll_eq, declareAll_eq, nodes, rules]

/-- A type that is named again keeps its place and takes further properties, also behind an edge rule
that names it, and a rule that joins a type with itself or was added before is listed like any other. -/
theorem mixed_declarations_accumulate :
    let declarations : List Declaration := [.node "b" ["k", "l", "k"], .edge "b" "a" "m" .tree,
      .node "a" [], .edge "a" "b" "n" .cousin, .edge "a" "a" "m" .tree, .node "b" ["i", "l"],
      .edge "b" "a" "m" .tree]
    let sorted : List Declaration := [.edge "b" "a" "m" .tree, .edge "a" "b" "n" .cousin,
      .edge "a" "a" "m" .tree, .edge "b" "a" "m" .tree, .node "b" ["k", "l", "k"], .node "a" [],
      .node "b" ["i", "l"]]
    let schema := empty.declareAll declarations
    schema.properties "b" = some ["k", "l", "i"] ∧ schema.properties "a" = some [] ∧
      schema.properties "c" = none ∧ schema.nodes.map (·.1) = ["b", "a"] ∧
      schema.edgeRules "a" "b" =
        [⟨"b", "a", "m", .tree⟩, ⟨"a", "b", "n", .cousin⟩, ⟨"b", "a", "m", .tree⟩] ∧
      schema.edgeRules "a" "a" = [⟨"a", "a", "m", .tree⟩] ∧
      (∃ known, (schema.declareAll [.node "b" ["k", "h"]]).properties "b" = some known ∧
        ["k", "l", "i"] <+: known) ∧
      empty.declareAll sorted = schema := by
  intro declarations sorted schema
  obtain ⟨known, types, rules, begun, mixed⟩ := declarations_accumulate declarations
  have properties : schema.properties "b" = some ["k", "l", "i"] :=
    ((known "b").2 ⟨["i", "l"], by decide⟩).trans (by decide)
  have unnamed : ¬ ∃ added, Declaration.node "c" added ∈ declarations := by
    rintro ⟨added, member⟩
    simp [declarations] at member
  exact ⟨properties, ((known "a").2 ⟨[], by decide⟩).trans (by decide), (known "c").1.mpr unnamed,
    types.trans (by decide), (rules "a" "b").2.trans (by decide),
    (rules "a" "a").2.trans (by decide), (begun _).properties "b" _ properties,
    (mixed empty).2 sorted (by decide) (by decide)⟩

end Traversal.Schema
