import Mathlib.Data.List.Nodup
import PhysicsLab.Proofs.Assembly.ModuleGraph
import PhysicsLab.Proofs.Table

/-!
# The ids of equations

In a model, an equation has the id of its block, an underscore, and the id that it has in its block.
Ids may hold underscores themselves, so two equations of different blocks can end up with one id:
that of one block goes on behind an underscore where that of the other ends, and the ids inside the
blocks make up for the difference.  There is no other way.

The hints list the expressions of the differential equations by their ids.  Of equations with one
id, the last one overrules the others.

## Main definitions

* `DeclaredIn` — an equation with the block that declares it
* `DeclaredIn.Collides` — how two of them come to have one id
* `Problem.declaredEquations` — the equations of a model as they are declared

## Main statements

* `joined_eq_iff` — when two joined ids are the same
* `Problem.nodup_equationIds_iff`, `Problem.keepsDifferentials_iff`
* `Problem.toModel_equationIds`
-/

namespace PhysicsLab

/-! ## §1 Joined ids -/

/-- Where a text is cut at one character in two ways, the longer front goes on behind that character
where the shorter one ends. -/
theorem append_cons_eq_append_cons_iff {α : Type} {mark : α} {as bs es fs : List α} :
    as ++ mark :: es = bs ++ mark :: fs ↔
      (as = bs ∧ es = fs) ∨ (∃ part, bs = as ++ mark :: part ∧ es = part ++ mark :: fs) ∨
        ∃ part, as = bs ++ mark :: part ∧ fs = part ++ mark :: es := by
  constructor
  · intro h
    rcases List.append_eq_append_iff.1 h with ⟨part, rfl, hrest⟩ | ⟨part, rfl, hrest⟩
    · cases part with
      | nil => exact .inl ⟨(List.append_nil _).symm, (List.cons.inj hrest).2⟩
      | cons c part =>
        obtain ⟨rfl, hes⟩ := List.cons.inj hrest
        exact .inr (.inl ⟨part, rfl, hes⟩)
    · cases part with
      | nil => exact .inl ⟨List.append_nil _, (List.cons.inj hrest).2.symm⟩
      | cons c part =>
        obtain ⟨rfl, hfs⟩ := List.cons.inj hrest
        exact .inr (.inr ⟨part, rfl, hfs⟩)
  · rintro (⟨rfl, rfl⟩ | ⟨part, rfl, rfl⟩ | ⟨part, rfl, rfl⟩)
    · rfl
    · rw [List.append_assoc, List.cons_append]
    · rw [List.append_assoc, List.cons_append]

/-- Two ids, joined by an underscore. -/
def joined (owner name : String) : String := owner ++ "_" ++ name

theorem eq_joined_iff {id owner name : String} :
    id = joined owner name ↔ id.toList = owner.toList ++ '_' :: name.toList := by
  rw [← String.toList_inj, joined, String.toList_append, String.toList_append, List.append_assoc]
  rfl

/-- Joined ids are the same only if they are the same one by one, or one of the owners goes on
where the other ends. -/
theorem joined_eq_iff {a b e f : String} :
    joined a e = joined b f ↔ (a = b ∧ e = f) ∨
      (∃ part, b = joined a part ∧ e = joined part f) ∨
      ∃ part, a = joined b part ∧ f = joined part e := by
  -- The part that one owner has more, as a text instead of its characters.
  have hpart : ∀ {a b e f : String},
      (∃ part, b.toList = a.toList ++ '_' :: part ∧ e.toList = part ++ '_' :: f.toList) ↔
        ∃ part, b = joined a part ∧ e = joined part f := by
    intro a b e f
    simp only [eq_joined_iff]
    constructor
    · rintro ⟨part, hb, he⟩
      exact ⟨String.ofList part, by rwa [String.toList_ofList], by rwa [String.toList_ofList]⟩
    · rintro ⟨part, hb, he⟩
      exact ⟨part.toList, hb, he⟩
  rw [eq_joined_iff, eq_joined_iff.1 rfl, append_cons_eq_append_cons_iff, String.toList_inj,
    String.toList_inj, hpart, hpart]

theorem ne_joined_self {id part : String} : id ≠ joined id part := by
  intro h
  have hlength := congrArg List.length (eq_joined_iff.1 h)
  simp at hlength

/-! ## §2 Declared equations -/

/-- An equation with the block that declares it. -/
structure DeclaredIn where
  block : KnowledgeBlock
  equation : DeclaredEquation

namespace DeclaredIn

/-- The id that the equation has in a model. -/
def id (x : DeclaredIn) : String := x.block.equationId x.equation

/-- The id of one block goes on where that of the other ends, and the equation of the other one has
an id that makes up for it. -/
def Collides (x y : DeclaredIn) : Prop :=
  ∃ part, y.block.id = x.block.id ++ "_" ++ part ∧ x.equation.id = part ++ "_" ++ y.equation.id

theorem id_eq_iff {x y : DeclaredIn} :
    x.id = y.id ↔
      (x.block.id = y.block.id ∧ x.equation.id = y.equation.id) ∨ x.Collides y ∨ y.Collides x :=
  joined_eq_iff

theorem Collides.id_eq {x y : DeclaredIn} (h : x.Collides y) : x.id = y.id :=
  id_eq_iff.2 (.inr (.inl h))

/-- Equations of one block do not collide. -/
theorem Collides.ne {x y : DeclaredIn} (h : x.Collides y) : x ≠ y := by
  rintro rfl
  obtain ⟨part, hblock, -⟩ := h
  exact ne_joined_self hblock

theorem Collides.length_lt {x y : DeclaredIn} (h : x.Collides y) :
    x.block.id.length < y.block.id.length := by
  obtain ⟨part, hblock, -⟩ := h
  rw [hblock, String.length_append, String.length_append]
  exact Nat.lt_of_lt_of_le (Nat.lt_succ_self _) (Nat.le_add_right _ _)

theorem collides_iff {x y : DeclaredIn} :
    x.Collides y ↔ x.id = y.id ∧ x.block.id.length < y.block.id.length := by
  constructor
  · exact fun h => ⟨h.id_eq, h.length_lt⟩
  · rintro ⟨hid, hlength⟩
    rcases id_eq_iff.1 hid with ⟨hblock, -⟩ | h | h
    · exact absurd (hblock ▸ hlength) (Nat.lt_irrefl _)
    · exact h
    · exact absurd h.length_lt (Nat.lt_asymm hlength)

instance (x y : DeclaredIn) : Decidable (x.Collides y) := decidable_of_iff' _ collides_iff

end DeclaredIn

variable {p : Problem} {l : Library} {settings : RunSettings}

/-- The equations that the blocks of the resolution declare.  Bare blocks are left out: the module
that replaces one has no equations. -/
def Problem.declaredEquations (p : Problem) (l : Library) : List DeclaredIn :=
  ((l.resolve (l.selection p)).blocks.filter fun c => ¬ c.IsBare).flatMap fun c =>
    c.equations.map (DeclaredIn.mk c)

theorem Problem.mem_declaredEquations {x : DeclaredIn} :
    x ∈ p.declaredEquations l ↔
      x.block ∈ (l.resolve (l.selection p)).blocks ∧ ¬ x.block.IsBare ∧
        x.equation ∈ x.block.equations := by
  simp only [declaredEquations, List.mem_flatMap, List.mem_filter, List.mem_map,
    decide_eq_true_eq, and_assoc]
  constructor
  · rintro ⟨c, hc, hbare, e, he, rfl⟩
    exact ⟨hc, hbare, he⟩
  · rintro ⟨hc, hbare, he⟩
    exact ⟨x.block, hc, hbare, x.equation, he, rfl⟩

/-- The equations of a model are the declared ones in their order, with their ids. -/
theorem Problem.equations_toModel (p : Problem) (l : Library) (settings : RunSettings) :
    ((p.toModel l settings).modules.flatMap PhysicsModule.equations).map
        (fun e => (e.id, e.kind, e.expression)) =
      (p.declaredEquations l).map fun x => (x.id, x.equation.kind, x.equation.expression) := by
  by_cases hsome : l.selection p = []
  · rw [p.modules_toModel_of_nothing settings hsome, declaredEquations, hsome]
    rfl
  · rw [modules_toModel_of_selected hsome, declaredEquations]
    generalize l.resolve (l.selection p) = r
    -- Block by block; a bare one has no equations on either side.
    induction r.blocks with
    | nil => rfl
    | cons c rest ih =>
      rw [List.map_cons, List.flatMap_cons, List.map_append, ih]
      have hgives := r.gives c (statedTable p.parameters)
      by_cases hbare : c.IsBare
      · rw [(hgives.bare hbare).2.2, List.filter_cons_of_neg (by simpa using hbare)]
        rfl
      · have hequations := congrArg (List.map fun t => (t.1, t.2.1, t.2.2.1))
          (hgives.equations_eq hbare)
        rw [List.map_map, List.map_map] at hequations
        rw [List.filter_cons_of_pos (by simpa using hbare), List.flatMap_cons, List.map_append,
          List.map_map]
        exact congrArg (· ++ _) hequations

section Distinct

variable (hlocal : ∀ c ∈ l.blocks, (c.equations.map DeclaredEquation.id).Nodup)
include hlocal

/-- Blocks have distinct ids, and so have the equations of a block. -/
theorem Problem.declared_eq_of_ids {x y : DeclaredIn} (hx : x ∈ p.declaredEquations l)
    (hy : y ∈ p.declaredEquations l) (hblock : x.block.id = y.block.id)
    (hequation : x.equation.id = y.equation.id) : x = y := by
  obtain ⟨hxblock, -, hxequation⟩ := mem_declaredEquations.1 hx
  obtain ⟨hyblock, -, hyequation⟩ := mem_declaredEquations.1 hy
  have hresolving := p.resolving l
  obtain ⟨c, e⟩ := x
  obtain ⟨d, f⟩ := y
  obtain rfl : c = d := List.inj_on_of_nodup_map hresolving.distinct hxblock hyblock hblock
  obtain rfl : e = f := List.inj_on_of_nodup_map (hlocal c (hresolving.blocks_mem c hxblock))
    hxequation hyequation hequation
  rfl

theorem Problem.nodup_declaredEquations : (p.declaredEquations l).Nodup := by
  have hresolving := p.resolving l
  have hblocks : ((l.resolve (l.selection p)).blocks.filter fun c => ¬ c.IsBare).Nodup :=
    hresolving.distinct.of_map.filter _
  refine List.nodup_flatMap.2 ⟨fun c hc => ?_, hblocks.imp fun {c d} hne => ?_⟩
  · have hc := hresolving.blocks_mem c (List.mem_filter.1 hc).1
    exact (hlocal c hc).of_map.map fun e f heq => congrArg DeclaredIn.equation heq
  · refine List.disjoint_left.2 fun x hc hd => hne ?_
    obtain ⟨e, -, rfl⟩ := List.mem_map.1 hc
    obtain ⟨f, -, heq⟩ := List.mem_map.1 hd
    exact (congrArg DeclaredIn.block heq).symm

/-- The ids of the equations are distinct exactly if no two declared ones collide. -/
theorem Problem.nodup_equationIds_iff :
    (((p.toModel l settings).modules.flatMap PhysicsModule.equations).map Equation.id).Nodup ↔
      ∀ x ∈ p.declaredEquations l, ∀ y ∈ p.declaredEquations l, ¬ x.Collides y := by
  have hids : ((p.toModel l settings).modules.flatMap PhysicsModule.equations).map Equation.id =
      (p.declaredEquations l).map DeclaredIn.id := by
    have heq := congrArg (List.map Prod.fst) (p.equations_toModel l settings)
    rwa [List.map_map, List.map_map] at heq
  rw [hids, List.nodup_map_iff_inj_on (nodup_declaredEquations hlocal)]
  constructor
  · -- Equations that collide have one id, but stand in different blocks.
    exact fun h x hx y hy hcollides => hcollides.ne (h x hx y hy hcollides.id_eq)
  · intro h x hx y hy heq
    rcases DeclaredIn.id_eq_iff.1 heq with ⟨hblock, hequation⟩ | hcollides | hcollides
    · exact declared_eq_of_ids hlocal hx hy hblock hequation
    · exact absurd hcollides (h x hx y hy)
    · exact absurd hcollides (h y hy x hx)

end Distinct

/-! ## §3 Listed differential equations -/

/-- The last differential equation with an id. -/
def lastDifferential? (equations : List Equation) (id : String) : Option Equation :=
  equations.reverse.find? fun e => e.kind = .differential ∧ e.id = id

theorem get?_differentials (p : Problem) (l : Library) (settings : RunSettings) (id : String) :
    (p.toModel l settings).hints.differentials.get? id =
      (lastDifferential? ((p.toModel l settings).modules.flatMap PhysicsModule.equations) id).map
        Equation.expression := by
  have hlist : (p.toModel l settings).hints.differentials =
      .ofList ((((p.toModel l settings).modules.flatMap PhysicsModule.equations).filter
        fun e => e.kind = .differential).map fun e => (e.id, e.expression)) := rfl
  rw [hlist, Table.get?_ofList, ← List.map_reverse, ← List.filter_reverse, lookup_map,
    List.find?_filter, lastDifferential?]
  simp only [decide_eq_true_eq, Bool.decide_and, beq_eq_decide]

/-- What holds of every two elements of a list holds of those of another list with the same data. -/
theorem forall_mem_pairs_iff {α β γ : Type} {f : α → γ} {g : β → γ} {xs : List α} {ys : List β}
    (hdata : xs.map f = ys.map g) (P : γ → γ → Prop) :
    (∀ a ∈ xs, ∀ b ∈ xs, P (f a) (f b)) ↔ ∀ c ∈ ys, ∀ d ∈ ys, P (g c) (g d) := by
  have hforall (Q : γ → Prop) : (∀ a ∈ xs, Q (f a)) ↔ ∀ c ∈ ys, Q (g c) := by
    rw [← List.forall_mem_map (f := f), hdata, List.forall_mem_map]
  calc (∀ a ∈ xs, ∀ b ∈ xs, P (f a) (f b))
      ↔ ∀ a ∈ xs, ∀ d ∈ ys, P (f a) (g d) := forall₂_congr fun a _ => hforall (P (f a))
    _ ↔ ∀ c ∈ ys, ∀ d ∈ ys, P (g c) (g d) := hforall fun t => ∀ d ∈ ys, P t (g d)

/-- Every differential equation is the last one with its id, up to its expression, exactly if those
with one id have one expression. -/
theorem expression_lastDifferential?_iff {equations : List Equation} :
    (∀ e ∈ equations, e.kind = .differential →
      (lastDifferential? equations e.id).map Equation.expression = some e.expression) ↔
      ∀ e ∈ equations, ∀ f ∈ equations, e.kind = .differential → f.kind = .differential →
        e.id = f.id → e.expression = f.expression := by
  constructor
  · intro h e he f hf hkind hkind' hid
    have hexpression := h e he hkind
    rw [hid, h f hf hkind'] at hexpression
    exact (Option.some.inj hexpression).symm
  · intro h e he hkind
    cases hlast : lastDifferential? equations e.id with
    | none =>
      have hnone := List.find?_eq_none.1 hlast e (List.mem_reverse.2 he)
      simp [hkind] at hnone
    | some f =>
      have hspec := List.find?_some hlast
      simp only [decide_eq_true_eq] at hspec
      have hf := List.mem_reverse.1 (List.mem_of_find?_eq_some hlast)
      exact congrArg some (h f hf e he hspec.1 hkind hspec.2)

/-- Each differential equation of a model is listed with its own expression. -/
def Model.KeepsDifferentials (m : Model) : Prop :=
  ∀ b ∈ m.modules, ∀ e ∈ b.equations, e.kind = .differential →
    m.hints.differentials.get? e.id = some e.expression

/-- Nothing is lost exactly if differential equations with one id have one expression. -/
theorem Problem.keepsDifferentials_iff_of_id_eq :
    (p.toModel l settings).KeepsDifferentials ↔
      ∀ x ∈ p.declaredEquations l, ∀ y ∈ p.declaredEquations l,
        x.equation.kind = .differential → y.equation.kind = .differential → x.id = y.id →
          x.equation.expression = y.equation.expression := by
  unfold Model.KeepsDifferentials
  simp only [get?_differentials]
  rw [← List.forall_mem_flatMap, expression_lastDifferential?_iff]
  -- Kinds, ids and expressions are those of the declared equations.
  exact forall_mem_pairs_iff (p.equations_toModel l settings) fun s t =>
    s.2.1 = .differential → t.2.1 = .differential → s.1 = t.1 → s.2.2 = t.2.2

section Distinct

variable (hlocal : ∀ c ∈ l.blocks, (c.equations.map DeclaredEquation.id).Nodup)
include hlocal

/-- Nothing is lost exactly if colliding differential equations have one expression. -/
theorem Problem.keepsDifferentials_iff :
    (p.toModel l settings).KeepsDifferentials ↔
      ∀ x ∈ p.declaredEquations l, ∀ y ∈ p.declaredEquations l,
        x.equation.kind = .differential → y.equation.kind = .differential → x.Collides y →
          x.equation.expression = y.equation.expression := by
  rw [keepsDifferentials_iff_of_id_eq]
  constructor
  · exact fun h x hx y hy hkind hkind' hcollides => h x hx y hy hkind hkind' hcollides.id_eq
  · intro h x hx y hy hkind hkind' hid
    rcases DeclaredIn.id_eq_iff.1 hid with ⟨hblock, hequation⟩ | hcollides | hcollides
    · rw [declared_eq_of_ids hlocal hx hy hblock hequation]
    · exact h x hx y hy hkind hkind' hcollides
    · exact (h y hy x hx hkind' hkind hcollides).symm

/-- Where the equations of each block have distinct ids, those of a model have distinct ids exactly
if no two declared ones collide, and each differential equation is listed with its own expression
exactly if colliding ones share theirs.  Under each id, the last differential equation is listed. -/
theorem Problem.toModel_equationIds (p : Problem) (settings : RunSettings) :
    ((((p.toModel l settings).modules.flatMap PhysicsModule.equations).map Equation.id).Nodup ↔
      ∀ x ∈ p.declaredEquations l, ∀ y ∈ p.declaredEquations l, ¬ x.Collides y) ∧
    ((p.toModel l settings).KeepsDifferentials ↔
      ∀ x ∈ p.declaredEquations l, ∀ y ∈ p.declaredEquations l,
        x.equation.kind = .differential → y.equation.kind = .differential → x.Collides y →
          x.equation.expression = y.equation.expression) ∧
    ∀ id, (p.toModel l settings).hints.differentials.get? id =
      (lastDifferential? ((p.toModel l settings).modules.flatMap PhysicsModule.equations) id).map
        Equation.expression :=
  ⟨nodup_equationIds_iff hlocal, keepsDifferentials_iff hlocal, get?_differentials p l settings⟩

end Distinct

/-- Two springs; the id of the second one goes on where that of the first one ends. -/
def springsLibrary : Library where
  blocks := [
    { id := "spring"
      name := "Spring"
      domain := .oscillation
      equations := [
        { id := "motion", kind := .differential, expression := "m * diff(x, t, 2) + k * x" },
        { id := "energy", kind := .algebraic, expression := "k * x^2 / 2" }] },
    { id := "spring_damped"
      name := "Damped spring"
      domain := .oscillation
      equations := [
        { id := "motion", kind := .differential,
          expression := "m * diff(x, t, 2) + c * diff(x, t) + k * x" }] }]
  distinct := by decide

/-- The same springs, where the first one speaks about damping in an equation of its own. -/
def dampingLibrary : Library where
  blocks := [
    { id := "spring"
      name := "Spring"
      domain := .oscillation
      equations := [
        { id := "damped_motion", kind := .differential,
          expression := "m * diff(x, t, 2) + k * x" }] },
    { id := "spring_damped"
      name := "Damped spring"
      domain := .oscillation
      equations := [
        { id := "motion", kind := .differential,
          expression := "m * diff(x, t, 2) + c * diff(x, t) + k * x" }] }]
  distinct := by decide

/-- A problem that selects both springs. -/
def springsProblem : Problem where
  modules := ["spring", "spring_damped"]

instance (m : Model) : Decidable m.KeepsDifferentials :=
  inferInstanceAs (Decidable (∀ b ∈ m.modules, ∀ e ∈ b.equations, _ → _))

/-- Ids that go on behind an underscore do no harm by themselves. -/
theorem equationIds_springs :
    (((springsProblem.toModel springsLibrary {}).modules.flatMap PhysicsModule.equations).map
        Equation.id).Nodup ∧
      (springsProblem.toModel springsLibrary {}).KeepsDifferentials := by
  have hlocal : ∀ c ∈ springsLibrary.blocks, (c.equations.map DeclaredEquation.id).Nodup := by
    decide
  obtain ⟨hnodup, hkeeps, -⟩ := Problem.toModel_equationIds hlocal springsProblem {}
  exact ⟨hnodup.2 (by decide), hkeeps.2 (by decide)⟩

/-- Equations of different blocks may end up with one id, and then only the last one is listed. -/
theorem equationIds_damping :
    (∀ c ∈ dampingLibrary.blocks, (c.equations.map DeclaredEquation.id).Nodup) ∧
      ((springsProblem.toModel dampingLibrary {}).modules.flatMap PhysicsModule.equations).map
          Equation.id = ["spring_damped_motion", "spring_damped_motion"] ∧
      (springsProblem.toModel dampingLibrary {}).hints.differentials.get? "spring_damped_motion" =
        some "m * diff(x, t, 2) + c * diff(x, t) + k * x" ∧
      ¬ (springsProblem.toModel dampingLibrary {}).KeepsDifferentials := by
  exact ⟨by decide, by decide, by decide, by decide⟩

end PhysicsLab
