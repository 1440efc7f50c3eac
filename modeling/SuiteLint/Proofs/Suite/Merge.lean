import Mathlib.Data.Finset.Basic
import Mathlib.Data.Multiset.Filter
import Mathlib.Data.String.Basic
import SuiteLint.Proofs.Complaint
import SuiteLint.Proofs.KeyedList
import SuiteLint.Suite.Merge

/-!
# What a project is made of

Merging walks through the sources and takes from a map the compiled class that belongs to each. Here
the outcome is said without the walk. Of the compiled classes of one name only the last counts
(`lastNamed?`). It goes to the first source of that name (`joinedAt`), and what has no source is
left (`unmatched`). `merge_accounts` says that a project has one test class for each source, and one
class more for each compiled class that is left, which is a test or not by its looks, and that both
lists are in order.
-/

namespace SuiteLint

open ClassFile (CompiledClass)
open Std (OrientedCmp TransCmp)

/-! ## The order of classes -/

/-- Where a class stands in a project: its path and its name. -/
abbrev ClassPlace : Type := Path × String

def TestClass.place (c : TestClass) : ClassPlace := (c.path, c.name)

def ProductionClass.place (c : ProductionClass) : ClassPlace := (c.path, c.name)

def ClassFile.CompiledClass.place (c : CompiledClass) : ClassPlace := (c.path, c.simpleName)

namespace ClassPlace

/-- Paths are the same if their components are. -/
def Same (a b : ClassPlace) : Prop := a.1.same b.1 = true ∧ a.2 = b.2

/-- By path, component by component, and then by name. -/
def InOrder (a b : ClassPlace) : Prop := a.1.cmp b.1 = .lt ∨ a.1.same b.1 = true ∧ a.2 ≤ b.2

def cmp (a b : ClassPlace) : Ordering := cmpPlaced a.1 b.1 a.2 b.2

instance : TransCmp cmp := by
  have hpath : TransCmp fun a b : ClassPlace => a.1.cmp b.1 := TransCmp.onField Prod.fst
  have hlex : cmp = compareLex (fun a b => a.1.cmp b.1) (compareOn Prod.snd) := rfl
  rw [hlex]
  infer_instance

theorem cmp_eq_eq_iff {a b : ClassPlace} : cmp a b = .eq ↔ Same a b := by
  rw [cmp, cmpPlaced, Ordering.then_eq_eq, Path.cmp_eq_iff_same,
    Std.LawfulEqCmp.compare_eq_iff_eq, Same]

theorem isLE_cmp_iff {a b : ClassPlace} : (cmp a b).isLE = true ↔ InOrder a b := by
  have hname : (compare a.2 b.2).isLE = true ↔ a.2 ≤ b.2 := by
    rw [← compare_le_iff_le, Ordering.isLE_iff_ne_gt]
  rw [cmp, cmpPlaced, Ordering.isLE_then_iff_or, Path.cmp_eq_iff_same, hname, InOrder]

/-- The test by which a list is sorted looks at places only. -/
def Sorts {α : Type} (place : α → ClassPlace) (le : α → α → Bool) : Prop :=
  ∀ a b, le a b = (cmp (place a) (place b)).isLE

theorem bne_gt_eq_isLE (o : Ordering) : (o != .gt) = o.isLE := by
  cases o <;> rfl

theorem sorts_testClass : Sorts TestClass.place TestClass.le := fun _ _ => bne_gt_eq_isLE _

theorem sorts_productionClass : Sorts ProductionClass.place ProductionClass.le :=
  fun _ _ => bne_gt_eq_isLE _

namespace Sorts

variable {α : Type} {place : α → ClassPlace} {le : α → α → Bool}

theorem trans (h : Sorts place le) (a b c : α) (hab : le a b = true) (hbc : le b c = true) :
    le a c = true := by
  rw [h] at *
  exact TransCmp.isLE_trans hab hbc

theorem total (h : Sorts place le) (a b : α) : (le a b || le b a) = true := by
  have hswap : cmp (place b) (place a) = (cmp (place a) (place b)).swap := OrientedCmp.eq_swap
  rw [h, h, hswap]
  cases cmp (place a) (place b) <;> rfl

theorem inOrder_mergeSort (h : Sorts place le) (as : List α) :
    (as.mergeSort le).Pairwise fun a b => InOrder (place a) (place b) := by
  refine (List.pairwise_mergeSort h.trans h.total as).imp fun {a b} hab => ?_
  rw [h] at hab
  exact isLE_cmp_iff.mp hab

end Sorts

end ClassPlace

/-! ## What becomes of sources and compiled classes -/

/-- The last of some compiled classes that has a name. -/
def lastNamed? (compiled : List CompiledClass) (name : String) : Option CompiledClass :=
  compiled.reverse.find? fun c => c.qualifiedName == name

/-- A source with the compiled class that belongs to it, if there is one. -/
def TestClass.joinedWith (c : TestClass) : Option CompiledClass → TestClass
  | some view => c.mergeCompiled view.toTestClass
  | none => c

/-- What becomes of the source at a position, where `view` gives the compiled class of a name: it is
joined with that class unless an earlier source has the same name. -/
def joinedAt (view : String → Option CompiledClass) (sources : List TestClass)
    (i : Fin sources.length) : TestClass :=
  if sources[i].qualifiedName ∈ (sources.take i).map TestClass.qualifiedName then sources[i]
  else sources[i].joinedWith (view sources[i].qualifiedName)

/-- The compiled classes that count and whose name no source has. -/
def unmatched (sources : List TestClass) (compiled : List CompiledClass) :
    Multiset CompiledClass :=
  ((compiled.map CompiledClass.qualifiedName).toFinset \
    (sources.map TestClass.qualifiedName).toFinset).val.filterMap (lastNamed? compiled)

/-! ## The walk through the sources -/

section Walk

variable {known : List (String × CompiledClass)} {c : TestClass} {sources : List TestClass}

theorem joinSources_cons (known : List (String × CompiledClass)) (c : TestClass)
    (sources : List TestClass) :
    joinSources known (c :: sources) =
      (c.joinedWith (KeyedList.get? c.qualifiedName known) ::
        (joinSources (KeyedList.erase c.qualifiedName known) sources).1,
        (joinSources (KeyedList.erase c.qualifiedName known) sources).2) := by
  rw [joinSources]
  cases hget : KeyedList.get? c.qualifiedName known with
  | some view => rfl
  | none =>
      rw [KeyedList.erase_of_get?_eq_none hget]
      rfl

theorem joinedAt_zero (view : String → Option CompiledClass) :
    joinedAt view (c :: sources) ⟨0, Nat.succ_pos _⟩ = c.joinedWith (view c.qualifiedName) :=
  if_neg List.not_mem_nil

/-- Behind a source, its name is used up. -/
theorem joinedAt_succ (view : String → Option CompiledClass) (i : Fin sources.length) :
    joinedAt view (c :: sources) i.succ =
      joinedAt (fun name => if c.qualifiedName = name then none else view name) sources i := by
  show (if sources[i].qualifiedName ∈ c.qualifiedName :: (sources.take i).map _ then sources[i]
    else sources[i].joinedWith (view sources[i].qualifiedName)) = _
  rw [joinedAt]
  by_cases hc : c.qualifiedName = sources[i].qualifiedName
  · rw [if_pos (hc ▸ List.mem_cons_self), if_pos hc]
    exact (ite_self _).symm
  · rw [if_neg hc]
    simp only [List.mem_cons, Ne.symm hc, false_or]

theorem joinSources_fst (known : List (String × CompiledClass)) (sources : List TestClass) :
    (joinSources known sources).1 =
      List.ofFn (joinedAt (fun name => KeyedList.get? name known) sources) := by
  induction sources generalizing known with
  | nil => rfl
  | cons c sources ih =>
      have hview : (fun name => KeyedList.get? name (KeyedList.erase c.qualifiedName known)) =
          fun name => if c.qualifiedName = name then none else KeyedList.get? name known :=
        funext fun name => KeyedList.get?_erase c.qualifiedName name known
      have htail := ih (KeyedList.erase c.qualifiedName known)
      rw [hview] at htail
      rw [joinSources_cons, htail]
      refine Eq.trans (congrArg₂ List.cons ?_ ?_) List.ofFn_succ.symm
      · exact (joinedAt_zero fun name => KeyedList.get? name known).symm
      · exact congrArg List.ofFn (funext fun i => (joinedAt_succ _ i).symm)

theorem joinSources_snd (known : List (String × CompiledClass)) (sources : List TestClass) :
    (joinSources known sources).2 =
      known.filter fun entry => entry.1 ∉ sources.map TestClass.qualifiedName := by
  induction sources generalizing known with
  | nil => simp [joinSources]
  | cons c sources ih =>
      rw [joinSources_cons, ih, KeyedList.erase, List.filter_filter]
      refine List.filter_congr fun entry _ => ?_
      by_cases hname : entry.1 = c.qualifiedName <;> simp [hname]

end Walk

/-! ## The compiled classes that count -/

theorem get?_compiledByName (compiled : List CompiledClass) (name : String) :
    KeyedList.get? name (compiledByName compiled) = lastNamed? compiled name := by
  rw [compiledByName, KeyedList.get?_ofList, ← List.map_reverse, List.find?_map, Option.map_map]
  exact congrFun Option.map_id _

theorem lastNamed?_eq_none_iff {compiled : List CompiledClass} {name : String} :
    lastNamed? compiled name = none ↔ name ∉ compiled.map CompiledClass.qualifiedName := by
  simp [lastNamed?, List.find?_eq_none]

/-- The keys of the map are the names of the compiled classes. -/
theorem toFinset_keys_compiledByName (compiled : List CompiledClass) :
    ((compiledByName compiled).map Prod.fst).toFinset =
      (compiled.map CompiledClass.qualifiedName).toFinset := by
  ext name
  rw [List.mem_toFinset, List.mem_toFinset, ← not_iff_not, ← KeyedList.get?_eq_none_iff,
    get?_compiledByName, lastNamed?_eq_none_iff]

/-- What the walk leaves in the map are the compiled classes without a source. -/
theorem leftOver_eq_unmatched (sources : List TestClass) (compiled : List CompiledClass) :
    (((joinSources (compiledByName compiled) sources).2.map Prod.snd : List CompiledClass) :
      Multiset CompiledClass) = unmatched sources compiled := by
  have hnodup : ((compiledByName compiled).map Prod.fst).Nodup := KeyedList.nodup_keys_ofList _
  have hvalue : ∀ entry ∈ (joinSources (compiledByName compiled) sources).2,
      lastNamed? compiled entry.1 = some entry.2 := by
    intro entry hentry
    rw [joinSources_snd] at hentry
    rw [← get?_compiledByName]
    exact (KeyedList.get?_eq_some_iff_mem hnodup).mpr (List.mem_of_mem_filter hentry)
  have hkeys : ((compiled.map CompiledClass.qualifiedName).toFinset \
      (sources.map TestClass.qualifiedName).toFinset).val =
        ((joinSources (compiledByName compiled) sources).2.map Prod.fst : List String) := by
    rw [← toFinset_keys_compiledByName, Finset.sdiff_eq_filter, Finset.filter_val,
      List.toFinset_val, List.dedup_eq_self.mpr hnodup, Multiset.filter_coe, List.filter_map,
      joinSources_snd]
    simp only [List.mem_toFinset, Function.comp_def]
  rw [unmatched, hkeys, Multiset.filterMap_coe, List.filterMap_map]
  exact congrArg Multiset.ofList (List.filterMap_eq_map_iff_forall_eq_some.mpr hvalue).symm

/-! ## Projects -/

theorem merge_eq_assemble (sources : List TestClass) (compiled : List CompiledClass) :
    Project.merge sources compiled =
      Project.assemble (joinSources (compiledByName compiled) sources).1
        ((joinSources (compiledByName compiled) sources).2.map Prod.snd) := rfl

theorem joinSources_compiledByName_fst (sources : List TestClass) (compiled : List CompiledClass) :
    (joinSources (compiledByName compiled) sources).1 =
      List.ofFn (joinedAt (lastNamed? compiled) sources) := by
  rw [joinSources_fst]
  exact congrArg (fun view => List.ofFn (joinedAt view sources))
    (funext (get?_compiledByName compiled))

/-- A project has one test class for each source, joined with the last compiled class of its name if
it is the first source of that name, and one class more for each name that only compiled classes
have: a test class if its last compiled class looks like a test, and a production class otherwise.
Both lists are sorted by path and name. -/
theorem merge_accounts (sources : List TestClass) (compiled : List CompiledClass) :
    ((Project.merge sources compiled).testClasses : Multiset TestClass) =
        List.ofFn (joinedAt (lastNamed? compiled) sources) +
          ((unmatched sources compiled).filter fun c => c.looksLikeTest).map
            CompiledClass.toTestClass ∧
      ((Project.merge sources compiled).productionClasses : Multiset ProductionClass) =
        ((unmatched sources compiled).filter fun c => ¬c.looksLikeTest).map
          CompiledClass.toProductionClass ∧
      ((Project.merge sources compiled).testClasses.Pairwise fun a b =>
        ClassPlace.InOrder a.place b.place) ∧
      (Project.merge sources compiled).productionClasses.Pairwise fun a b =>
        ClassPlace.InOrder a.place b.place := by
  rw [merge_eq_assemble, ← leftOver_eq_unmatched, joinSources_compiledByName_fst]
  refine ⟨?_, ?_, ClassPlace.sorts_testClass.inOrder_mergeSort _,
    ClassPlace.sorts_productionClass.inOrder_mergeSort _⟩
  · refine (Multiset.coe_eq_coe.mpr (List.mergeSort_perm _ _)).trans ?_
    rw [← Multiset.coe_add, ← Multiset.map_coe, Multiset.filter_coe]
    simp only [Bool.decide_eq_true]
  · refine (Multiset.coe_eq_coe.mpr (List.mergeSort_perm _ _)).trans ?_
    rw [← Multiset.map_coe, Multiset.filter_coe]
    simp only [Bool.not_eq_true, Bool.decide_eq_false]

end SuiteLint
