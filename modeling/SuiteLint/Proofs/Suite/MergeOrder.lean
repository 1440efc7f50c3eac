import Mathlib.Data.List.Nodup
import Mathlib.Data.List.OfFn
import Mathlib.Data.List.Pairwise
import SuiteLint.Proofs.Sorting
import SuiteLint.Proofs.Suite.Merge

/-!
# Projects do not depend on the order of their parts

The compiled classes that no source takes come out of a map in no particular order, and behind the
sources: `MayMerge` says which projects merging may give. They are sorted by path and name, which
need not tell a source from a compiled class. What a stable sort makes of a list is determined by
the order in which elements of the same rank come in (`Ranks.mergeSort_eq`), so it is enough that no
two sources and no two of the compiled classes that are left share path and name:
`merge_unordered`.
-/

namespace SuiteLint

open ClassFile (CompiledClass)

namespace ClassPlace.Sorts

variable {α : Type} {place : α → ClassPlace} {le : α → α → Bool}

theorem ranks (h : Sorts place le) : Ranks le := ⟨h.trans, h.total⟩

theorem tied_iff_same (h : Sorts place le) {a b : α} :
    tied le a b = true ↔ Same (place a) (place b) := by
  rw [tied_iff, h, h, ← cmp_eq_eq_iff]
  refine ⟨fun hab => Std.OrientedCmp.isLE_antisymm hab.1 hab.2, fun hab => ?_⟩
  rw [hab, Std.OrientedCmp.eq_symm hab]
  exact ⟨rfl, rfl⟩

end ClassPlace.Sorts

/-! ## Projects of the same parts -/

open ClassPlace (Same Sorts sorts_testClass sorts_productionClass)

section Assembling

variable {joined joined' : List TestClass} {left left' : List CompiledClass}

theorem filter_tied_leftOver {α : Type} {place : α → ClassPlace} {le : α → α → Bool}
    (hsorts : Sorts place le) {f : CompiledClass → α} (hf : ∀ c, place (f c) = c.place)
    (hleft : left.Perm left') (hplaces : left.Pairwise fun c d => ¬Same c.place d.place)
    (p : CompiledClass → Bool) (a : α) :
    ((left.filter p).map f).filter (tied le a) = ((left'.filter p).map f).filter (tied le a) := by
  refine hsorts.ranks.filter_tied_of_perm ((hleft.filter p).map f) ?_ a
  rw [List.pairwise_map]
  refine (hplaces.filter p).imp fun {c d} hcd => ?_
  rwa [hsorts.tied_iff_same, hf, hf]

/-- Joined classes whose ties come in the same order, and compiled classes without ties in any
order, give the same project. -/
theorem assemble_eq
    (hjoined : ∀ a, joined.filter (tied TestClass.le a) = joined'.filter (tied TestClass.le a))
    (hleft : left.Perm left') (hplaces : left.Pairwise fun c d => ¬Same c.place d.place) :
    Project.assemble joined left = Project.assemble joined' left' := by
  rw [Project.assemble, Project.assemble, Project.mk.injEq]
  refine ⟨sorts_testClass.ranks.mergeSort_eq fun a => ?_,
    sorts_productionClass.ranks.mergeSort_eq fun a => ?_⟩
  · rw [List.filter_append, List.filter_append, hjoined,
      filter_tied_leftOver sorts_testClass (fun _ => rfl) hleft hplaces]
  · exact filter_tied_leftOver sorts_productionClass (fun _ => rfl) hleft hplaces _ a

end Assembling

/-! ## The compiled classes that are left -/

section Unmatched

variable {sources sources' : List TestClass} {compiled compiled' : List CompiledClass}

theorem mem_of_lastNamed? {name : String} {c : CompiledClass}
    (h : lastNamed? compiled name = some c) : c ∈ compiled ∧ c.qualifiedName = name := by
  have hname := List.find?_some h
  exact ⟨List.mem_reverse.mp (List.mem_of_find?_eq_some h), beq_iff_eq.mp hname⟩

theorem nodup_unmatched (sources : List TestClass) (compiled : List CompiledClass) :
    (unmatched sources compiled).Nodup := by
  refine Multiset.Nodup.filterMap _ (fun name name' c hc hc' => ?_) (Finset.nodup _)
  exact (mem_of_lastNamed? hc).2.symm.trans (mem_of_lastNamed? hc').2

theorem pairwise_places {visited : List CompiledClass}
    (hvisited : (visited : Multiset CompiledClass) = unmatched sources compiled)
    (hplaces : ∀ c ∈ unmatched sources compiled, ∀ d ∈ unmatched sources compiled,
      Same c.place d.place → c = d) :
    visited.Pairwise fun c d => ¬Same c.place d.place := by
  rw [← hvisited] at hplaces
  have hnodup : visited.Nodup := by
    rw [← Multiset.coe_nodup, hvisited]
    exact nodup_unmatched sources compiled
  exact hnodup.pairwise_of_forall_ne fun c hc d hd hne hsame => hne (hplaces c hc d hd hsame)

theorem lastNamed?_eq_some_iff (hnodup : (compiled.map CompiledClass.qualifiedName).Nodup)
    {name : String} {c : CompiledClass} :
    lastNamed? compiled name = some c ↔ c ∈ compiled ∧ c.qualifiedName = name := by
  refine ⟨mem_of_lastNamed?, ?_⟩
  rintro ⟨hc, rfl⟩
  cases hlast : lastNamed? compiled c.qualifiedName with
  | none => exact absurd (List.mem_map_of_mem hc) (lastNamed?_eq_none_iff.mp hlast)
  | some d =>
      obtain ⟨hd, hname⟩ := mem_of_lastNamed? hlast
      rw [List.inj_on_of_nodup_map hnodup hd hc hname]

theorem lastNamed?_eq_of_perm (hnodup : (compiled.map CompiledClass.qualifiedName).Nodup)
    (hperm : compiled'.Perm compiled) : lastNamed? compiled' = lastNamed? compiled := by
  have hnodup' : (compiled'.map CompiledClass.qualifiedName).Nodup :=
    (hperm.map _).nodup_iff.mpr hnodup
  funext name
  ext c
  rw [lastNamed?_eq_some_iff hnodup, lastNamed?_eq_some_iff hnodup', hperm.mem_iff]

theorem unmatched_eq_of_perm (hnodup : (compiled.map CompiledClass.qualifiedName).Nodup)
    (hsources : sources'.Perm sources) (hcompiled : compiled'.Perm compiled) :
    unmatched sources' compiled' = unmatched sources compiled := by
  rw [unmatched, unmatched, lastNamed?_eq_of_perm hnodup hcompiled,
    List.toFinset_eq_of_perm _ _ (hsources.map _), List.toFinset_eq_of_perm _ _ (hcompiled.map _)]

end Unmatched

/-! ## Sources of different names -/

section Sources

variable {sources sources' : List TestClass} {view : String → Option CompiledClass}

@[simp] theorem TestClass.place_joinedWith (c : TestClass) (view : Option CompiledClass) :
    (c.joinedWith view).place = c.place := by
  cases view <;> rfl

/-- No source is kept from its compiled class by an earlier one. -/
theorem ofFn_joinedAt (hnodup : (sources.map TestClass.qualifiedName).Nodup) :
    List.ofFn (joinedAt view sources) =
      sources.map fun c => c.joinedWith (view c.qualifiedName) := by
  rw [← List.ofFn_getElem_eq_map]
  refine congrArg List.ofFn (funext fun i => if_neg fun hearlier => ?_)
  obtain ⟨c, hc, hname⟩ := List.mem_map.mp hearlier
  obtain ⟨j, hj, rfl⟩ := List.mem_take_iff_getElem.mp hc
  have hdiffer := List.pairwise_map.mp hnodup
  exact List.pairwise_iff_getElem.mp hdiffer j i (by omega) i.isLt (by omega) hname

theorem filter_tied_joined (hperm : sources'.Perm sources)
    (hplaces : sources.Pairwise fun c d => ¬Same c.place d.place) (a : TestClass) :
    (sources'.map fun c => c.joinedWith (view c.qualifiedName)).filter (tied TestClass.le a) =
      (sources.map fun c => c.joinedWith (view c.qualifiedName)).filter (tied TestClass.le a) := by
  refine (sorts_testClass.ranks.filter_tied_of_perm (hperm.symm.map _) ?_ a).symm
  rw [List.pairwise_map]
  refine hplaces.imp fun {c d} hcd => ?_
  rwa [sorts_testClass.tied_iff_same, TestClass.place_joinedWith, TestClass.place_joinedWith]

end Sources

/-! ## Merging in any order -/

/-- The projects that merging may give: the compiled classes that no source takes are visited in any
order. -/
def MayMerge (sources : List TestClass) (compiled : List CompiledClass) (p : Project) : Prop :=
  ∃ visited : List CompiledClass, (visited : Multiset CompiledClass) = unmatched sources compiled ∧
    p = Project.assemble (joinSources (compiledByName compiled) sources).1 visited

theorem mayMerge_merge (sources : List TestClass) (compiled : List CompiledClass) :
    MayMerge sources compiled (Project.merge sources compiled) :=
  ⟨_, leftOver_eq_unmatched sources compiled, rfl⟩

theorem mayMerge_iff {sources sources' : List TestClass} {compiled compiled' : List CompiledClass}
    {p : Project}
    (hjoined : ∀ a,
      (joinSources (compiledByName compiled') sources').1.filter (tied TestClass.le a) =
        (joinSources (compiledByName compiled) sources).1.filter (tied TestClass.le a))
    (hleft : unmatched sources' compiled' = unmatched sources compiled)
    (hplaces : ∀ c ∈ unmatched sources compiled, ∀ d ∈ unmatched sources compiled,
      Same c.place d.place → c = d) :
    MayMerge sources' compiled' p ↔ p = Project.merge sources compiled := by
  have hone : ∀ q, MayMerge sources' compiled' q → q = Project.merge sources compiled := by
    rintro q ⟨visited, hvisited, rfl⟩
    rw [hleft] at hvisited
    refine assemble_eq hjoined (Multiset.coe_eq_coe.mp ?_) (pairwise_places hvisited hplaces)
    rw [hvisited, leftOver_eq_unmatched]
  refine ⟨hone p, ?_⟩
  rintro rfl
  rw [← hone _ (mayMerge_merge sources' compiled')]
  exact mayMerge_merge sources' compiled'

/-- If no two of the compiled classes that are left have the same path and name, merging can give
only one project. If moreover no two compiled classes and no two sources have the same qualified
name, and no two sources the same path and name, the project is the same for any order of the
sources and of the compiled classes. -/
theorem merge_unordered (sources : List TestClass) (compiled : List CompiledClass)
    (hplaces : ∀ c ∈ unmatched sources compiled, ∀ d ∈ unmatched sources compiled,
      Same c.place d.place → c = d) :
    (∀ p, MayMerge sources compiled p ↔ p = Project.merge sources compiled) ∧
      ((compiled.map CompiledClass.qualifiedName).Nodup →
        (sources.map TestClass.qualifiedName).Nodup →
        (sources.Pairwise fun c d => ¬Same c.place d.place) →
        ∀ sources' compiled', sources'.Perm sources → compiled'.Perm compiled →
          ∀ p, MayMerge sources' compiled' p ↔ p = Project.merge sources compiled) := by
  refine ⟨fun p => mayMerge_iff (fun _ => rfl) rfl hplaces, ?_⟩
  intro hcompiled hsources hsourcePlaces sources' compiled' hperm hperm' p
  have hsources' : (sources'.map TestClass.qualifiedName).Nodup :=
    (hperm.map _).nodup_iff.mpr hsources
  refine mayMerge_iff (fun a => ?_) (unmatched_eq_of_perm hcompiled hperm hperm') hplaces
  rw [joinSources_compiledByName_fst, joinSources_compiledByName_fst, ofFn_joinedAt hsources,
    ofFn_joinedAt hsources', lastNamed?_eq_of_perm hcompiled hperm']
  exact filter_tied_joined hperm hsourcePlaces a

/-! ### A shop

The compiled class `CodeTest` has no source, but stands where the source of `shop.CodeTest` does. -/

def shopSources : List TestClass :=
  [{ name := "CartTest", package := "shop", path := ⟨"t/CartTest.java"⟩, origin := .source },
    { name := "CodeTest", package := "shop", path := ⟨"t/CodeTest.java"⟩, origin := .source }]

def shopCompiled : List CompiledClass :=
  [("shop.CartTest", "c/CartTest.class"), ("CodeTest", "t//CodeTest.java"),
    ("shop.Cart", "c/Cart.class")].map fun entry =>
      { qualifiedName := entry.1, path := ⟨entry.2⟩, access := 33, superName := none
        interfaces := [], fields := [], methods := [] }

instance (a b : ClassPlace) : Decidable (Same a b) := inferInstanceAs (Decidable (_ ∧ _))

theorem merge_unordered_shop :
    (∀ p, MayMerge shopSources shopCompiled p ↔ p = Project.merge shopSources shopCompiled) ∧
      Project.merge shopSources.reverse shopCompiled.reverse =
        Project.merge shopSources shopCompiled ∧
      ∃ c ∈ shopSources, ∃ d ∈ shopCompiled,
        d ∈ unmatched shopSources shopCompiled ∧ Same c.place d.place := by
  have hplaces : ∀ c ∈ unmatched shopSources shopCompiled,
      ∀ d ∈ unmatched shopSources shopCompiled, Same c.place d.place → c = d := by
    decide +kernel
  have hmerge := merge_unordered shopSources shopCompiled hplaces
  refine ⟨hmerge.1, ?_, by decide +kernel⟩
  have hreversed := hmerge.2 (by decide +kernel) (by decide +kernel) (by decide +kernel)
    shopSources.reverse shopCompiled.reverse (List.reverse_perm _) (List.reverse_perm _)
  exact (hreversed _).mp (mayMerge_merge _ _)

end SuiteLint
