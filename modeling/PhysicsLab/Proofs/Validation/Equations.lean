import Mathlib.Data.List.Forall2
import Mathlib.Data.List.Sigma
import PhysicsLab.Proofs.Formula.Lexemes
import PhysicsLab.Proofs.Table
import PhysicsLab.Proofs.Text.Cutting
import PhysicsLab.Proofs.Validation.Findings

/-!
# The check of equations

A name in an equation should be that of a parameter, of the module or of the model.  The check
looks for names in three places, the expression and two lists, in which the same name can stand any
number of times.  It reports a name that is no key once for each equation, whatever the places.

What is reported is compared with what stands in the model by position: a mention is a module by its
place, an equation of it by its place, and a name.

## Main definitions

* `Unresolved` — a name in an equation that is a key of neither table
* `Mention`, `Mention.IsUnresolved` — such a name with the places where it stands
* `Reports` — what a finding says about a mention

## Main statements

* `filter_equationFindings` — the findings about one equation
* `equations_spec` — the findings about a model, and when there are none
-/

namespace PhysicsLab.Validation

open PhysicsLab.Text

variable {m : Model} {b : PhysicsModule} {e : Equation} {name : String}

/-! ## §1 One equation -/

/-- A name in the expression of an equation that is not blank, or in one of its lists.  It is a
parameter of neither the module nor the model. -/
structure Unresolved (m : Model) (b : PhysicsModule) (e : Equation) (name : String) : Prop where
  stated : isBlankText e.expression = false
  mentioned : name ∈ Formula.identifiers e.expression ∨ name ∈ e.symbols ∨ name ∈ e.parameters
  not_key_of_module : name ∉ b.parameters.keys
  not_key_of_model : name ∉ m.parameters.keys

/-- The names of an equation that are reported. -/
def unresolvedNames (m : Model) (b : PhysicsModule) (e : Equation) : List String :=
  if isBlankText e.expression then []
  else (namesOf e).filter fun name => !(b.parameters.has name || m.parameters.has name)

/-- The finding about a name in an equation of a module. -/
def unresolvedFinding (b : PhysicsModule) (e : Equation) (name : String) : Finding :=
  .unresolvedName e.id name (Convention.dimension? name (some b.domain))

theorem mem_unresolvedNames : name ∈ unresolvedNames m b e ↔ Unresolved m b e name := by
  have hknown : (!(b.parameters.has name || m.parameters.has name)) = true ↔
      name ∉ b.parameters.keys ∧ name ∉ m.parameters.keys := by
    rw [Bool.not_eq_true', Bool.or_eq_false_iff, ← Bool.not_eq_true, ← Bool.not_eq_true,
      Table.has_iff, Table.has_iff]
  unfold unresolvedNames
  split
  · next hblank =>
    refine iff_of_false List.not_mem_nil fun h => ?_
    rw [h.stated] at hblank
    cases hblank
  · next hstated =>
    rw [List.mem_filter, hknown, namesOf, List.mem_eraseDups, List.mem_append, List.mem_append,
      or_assoc]
    exact ⟨fun ⟨hname, hmodule, hmodel⟩ => ⟨Bool.eq_false_iff.2 hstated, hname, hmodule, hmodel⟩,
      fun h => ⟨h.mentioned, h.not_key_of_module, h.not_key_of_model⟩⟩

theorem nodup_eraseDups (names : List String) : names.eraseDups.Nodup := by
  have horder := Formula.pairwise_idxOf_eraseDups names fun _ => true
  rw [List.filter_true] at horder
  refine horder.imp fun {a b} hless heq => ?_
  rw [heq] at hless
  exact Nat.lt_irrefl _ hless

theorem nodup_unresolvedNames (m : Model) (b : PhysicsModule) (e : Equation) :
    (unresolvedNames m b e).Nodup := by
  unfold unresolvedNames
  split
  · exact List.nodup_nil
  · exact (nodup_eraseDups _).sublist List.filter_sublist

/-- Of the findings about an equation, those with the code of names report its unresolved names. -/
theorem filter_equationFindings (m : Model) (b : PhysicsModule) (e : Equation) :
    ((equationFindings m b e).filter fun f => f.code == "IR-E03") =
      (unresolvedNames m b e).map (unresolvedFinding b e) := by
  have hempty : (codeOf .equations 1 == "IR-E03") = false := by decide
  have hundefined : (codeOf .equations 2 == "IR-E03") = false := by decide
  have hname : (codeOf .equations 3 == "IR-E03") = true := by decide
  unfold equationFindings unresolvedNames
  split
  · exact List.filter_cons_of_neg (Bool.eq_false_iff.1 hempty)
  · have hmarker : ((findIf (Formula.hasUndefinedMarker e.expression) (.undefinedTerm e.id)).filter
        fun f => f.code == "IR-E03") = [] := by
      refine List.filter_eq_nil_iff.2 fun f hf => ?_
      rw [(mem_findIf.1 hf).2]
      exact Bool.eq_false_iff.1 hundefined
    rw [List.filter_append, hmarker, List.nil_append]
    refine List.filter_eq_self.2 fun f hf => ?_
    obtain ⟨name, -, rfl⟩ := List.mem_map.1 hf
    exact hname

/-- An equation is without findings exactly if it is stated, without the marker of missing terms,
and all its names resolve. -/
theorem equationFindings_eq_nil_iff :
    equationFindings m b e = [] ↔
      isBlankText e.expression = false ∧ Formula.hasUndefinedMarker e.expression = false ∧
        ∀ name, ¬ Unresolved m b e name := by
  simp only [← mem_unresolvedNames, ← List.eq_nil_iff_forall_not_mem]
  unfold equationFindings unresolvedNames findIf
  cases isBlankText e.expression with
  | true => simp
  | false => cases Formula.hasUndefinedMarker e.expression <;> simp

/-! ## §2 A model -/

/-- A name in an equation of a model, with the place of the module among the modules and that of the
equation in the module. -/
structure Mention where
  owner : Nat
  equation : Nat
  name : String
  deriving DecidableEq

/-- There is a module and an equation at these places, and the name in it is unresolved. -/
def Mention.IsUnresolved (m : Model) (x : Mention) : Prop :=
  ∃ b e, m.modules[x.owner]? = some b ∧ b.equations[x.equation]? = some e ∧
    Unresolved m b e x.name

/-- A finding is about a mention: it names its equation and, as its subject, its name, and it
suggests how to mend it. -/
structure Reports (m : Model) (x : Mention) (f : Finding) : Prop where
  finding_eq : ∃ b e, m.modules[x.owner]? = some b ∧ b.equations[x.equation]? = some e ∧
    f = unresolvedFinding b e x.name
  subject_eq : f.subject? = some x.name
  suggests : f.suggestion?.isSome = true

theorem reports_unresolvedFinding {owner equation : Nat} (hb : m.modules[owner]? = some b)
    (he : b.equations[equation]? = some e) (name : String) :
    Reports m ⟨owner, equation, name⟩ (unresolvedFinding b e name) where
  finding_eq := ⟨b, e, hb, he, rfl⟩
  subject_eq := rfl
  suggests := by
    unfold unresolvedFinding
    cases Convention.dimension? name (some b.domain) <;> rfl

/-- The unresolved mentions in a module at some place, in the order of its equations. -/
def mentionsIn (m : Model) (b : PhysicsModule × Nat) : List Mention :=
  b.1.equations.zipIdx.flatMap fun e => (unresolvedNames m b.1 e.1).map (Mention.mk b.2 e.2)

/-- The unresolved mentions of a model, in the order of its modules. -/
def unresolvedMentions (m : Model) : List Mention := m.modules.zipIdx.flatMap (mentionsIn m)

theorem mem_unresolvedMentions {x : Mention} :
    x ∈ unresolvedMentions m ↔ x.IsUnresolved m := by
  simp only [unresolvedMentions, mentionsIn, List.mem_flatMap, List.mem_map, Prod.exists,
    List.mk_mem_zipIdx_iff_getElem?, mem_unresolvedNames]
  constructor
  · rintro ⟨b, owner, hb, e, equation, he, name, hname, rfl⟩
    exact ⟨b, e, hb, he, hname⟩
  · rintro ⟨b, e, hb, he, hname⟩
    exact ⟨b, x.owner, hb, e, x.equation, he, x.name, hname, rfl⟩

/-- Lists that are put together place by place have no element twice, if each has none and an
element tells the place that it comes from. -/
theorem nodup_flatMap_zipIdx {α β : Type} {xs : List α} {f : α × Nat → List β} (place : β → Nat)
    (hplace : ∀ x, ∀ y ∈ f x, place y = x.2) (hf : ∀ x ∈ xs.zipIdx, (f x).Nodup) :
    (xs.zipIdx.flatMap f).Nodup := by
  refine List.nodup_flatMap.2 ⟨hf, ?_⟩
  have hplaces : xs.zipIdx.Pairwise fun x y => x.2 ≠ y.2 :=
    List.pairwise_map.1 (List.nodup_zipIdx_map_snd xs)
  refine hplaces.imp fun {x y} hne => List.disjoint_left.2 fun z hx hy => hne ?_
  rw [← hplace x z hx, ← hplace y z hy]

theorem nodup_unresolvedMentions (m : Model) : (unresolvedMentions m).Nodup := by
  refine nodup_flatMap_zipIdx Mention.owner ?_ fun b _ => ?_
  · intro b x hx
    obtain ⟨e, -, hx⟩ := List.mem_flatMap.1 hx
    obtain ⟨name, -, rfl⟩ := List.mem_map.1 hx
    rfl
  · refine nodup_flatMap_zipIdx Mention.equation ?_ fun e _ => ?_
    · intro e x hx
      obtain ⟨name, -, rfl⟩ := List.mem_map.1 hx
      rfl
    · exact (nodup_unresolvedNames m b.1 e.1).map fun name other heq =>
        congrArg Mention.name heq

theorem forall₂_zipIdx {α : Type} (xs : List α) :
    List.Forall₂ (fun x y => x.1 = y ∧ xs[x.2]? = some y) xs.zipIdx xs := by
  have hfst : xs = xs.zipIdx.map Prod.fst := (List.zipIdx_map_fst 0 xs).symm
  conv => arg 3; rw [hfst]
  rw [List.forall₂_map_right_iff, List.forall₂_same]
  exact fun x hx => ⟨rfl, List.mem_zipIdx_iff_getElem?.1 hx⟩

theorem forall₂_reports_mentionsIn {owner : Nat} (hb : m.modules[owner]? = some b) :
    List.Forall₂ (Reports m) (mentionsIn m (b, owner))
      ((b.equations.flatMap (equationFindings m b)).filter fun f => f.code == "IR-E03") := by
  rw [List.filter_flatMap]
  refine List.rel_flatMap (forall₂_zipIdx b.equations) ?_
  rintro ⟨_, equation⟩ e ⟨rfl, he⟩
  dsimp only
  rw [filter_equationFindings, List.forall₂_map_left_iff, List.forall₂_map_right_iff,
    List.forall₂_same]
  exact fun name _ => reports_unresolvedFinding hb he name

/-- In their order, the findings with the code of names report the unresolved mentions. -/
theorem forall₂_reports (m : Model) :
    List.Forall₂ (Reports m) (unresolvedMentions m)
      ((equations m).filter fun f => f.code == "IR-E03") := by
  rw [equations, List.filter_flatMap]
  refine List.rel_flatMap (forall₂_zipIdx m.modules) ?_
  rintro ⟨_, owner⟩ b ⟨rfl, hb⟩
  exact forall₂_reports_mentionsIn hb

/-- Every finding about equations is an error. -/
theorem isError_equations {f : Finding} (hf : f ∈ equations m) : f.isError = true := by
  obtain ⟨b, -, hf⟩ := List.mem_flatMap.1 hf
  obtain ⟨e, -, hf⟩ := List.mem_flatMap.1 hf
  rcases mem_equationFindings hf with ⟨-, rfl⟩ | ⟨-, rfl⟩ | ⟨name, -, -, rfl⟩ <;> rfl

theorem isValid_equations_iff :
    (Outcome.mk .equations (equations m)).isValid = true ↔
      ∀ b ∈ m.modules, ∀ e ∈ b.equations, equationFindings m b e = [] := by
  rw [Outcome.isValid, Outcome.errors, List.filter_eq_self.2 fun f => isError_equations,
    List.isEmpty_iff, equations, List.flatMap_eq_nil_iff]
  simp only [List.flatMap_eq_nil_iff]

/-- No mention is unresolved exactly if no name of any equation is. -/
theorem forall_not_isUnresolved_iff :
    (∀ x : Mention, ¬ x.IsUnresolved m) ↔
      ∀ b ∈ m.modules, ∀ e ∈ b.equations, ∀ name, ¬ Unresolved m b e name := by
  constructor
  · intro h b hb e he name hname
    obtain ⟨owner, howner⟩ := List.mem_iff_getElem?.1 hb
    obtain ⟨equation, hequation⟩ := List.mem_iff_getElem?.1 he
    exact h ⟨owner, equation, name⟩ ⟨b, e, howner, hequation, hname⟩
  · rintro h x ⟨b, e, hb, he, hname⟩
    exact h b (List.mem_of_getElem? hb) e (List.mem_of_getElem? he) x.name hname

/-- What the check of equations finds.

* Code 3, once for each unresolved mention and for nothing else, however often and wherever the name
  stands in the equation; the finding has the name as its subject and a suggestion.
* A model passes exactly if no mention is unresolved, no expression is blank, and none holds the
  marker of a missing term, in small or capital letters. -/
theorem equations_spec (m : Model) :
    (∃ mentions : List Mention, mentions.Nodup ∧
      (∀ x, x ∈ mentions ↔ x.IsUnresolved m) ∧
      List.Forall₂ (Reports m) mentions
        ((equations m).filter fun f => f.code == "IR-E03")) ∧
    ((Outcome.mk .equations (equations m)).isValid = true ↔
      (∀ x : Mention, ¬ x.IsUnresolved m) ∧
      ∀ b ∈ m.modules, ∀ e ∈ b.equations, isBlankText e.expression = false ∧
        ¬ "undefined".toList <:+: (toSmall e.expression).toList) := by
  refine ⟨⟨unresolvedMentions m, nodup_unresolvedMentions m, fun x => mem_unresolvedMentions,
    forall₂_reports m⟩, ?_⟩
  have hmarker (e : Equation) : ¬ "undefined".toList <:+: (toSmall e.expression).toList ↔
      Formula.hasUndefinedMarker e.expression = false := occursIn_eq_false_iff.symm
  simp only [isValid_equations_iff, equationFindings_eq_nil_iff, forall_not_isUnresolved_iff,
    hmarker]
  constructor
  · intro h
    exact ⟨fun b hb e he => (h b hb e he).2.2,
      fun b hb e he => ⟨(h b hb e he).1, (h b hb e he).2.1⟩⟩
  · rintro ⟨hnames, htexts⟩ b hb e he
    exact ⟨(htexts b hb e he).1, (htexts b hb e he).2, hnames b hb e he⟩

end PhysicsLab.Validation
