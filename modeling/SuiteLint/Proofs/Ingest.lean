import SuiteLint.Ingest
import SuiteLint.Proofs.FileSystem.Basic
import SuiteLint.Proofs.Suite.MergeOrder

/-!
# Bad files are kept apart

Each file gives its classes and its diagnostic by itself, and both roots feed one project and one
sorted list of diagnostics. So a file that cannot be read or parsed adds a diagnostic and nothing
else, a class file that is set aside adds nothing, and a source with syntax errors adds a diagnostic
beside its classes, wherever among the other files it is found (`ingested_files_isolated`). In the
sorted list one diagnostic more stands between neighbours (`oneMore_arrange`), and in the project
each class of a source has an entry of its own (`hasEntries_merge`).
-/

namespace SuiteLint

open ClassFile (CompiledClass)

/-! ## Diagnostics in order -/

namespace Diagnostic

/-- Diagnostics stand by path and reason, as classes stand by path and name. -/
def place (d : Diagnostic) : ClassPlace := (d.path, d.reason)

theorem sorts_diagnostic : ClassPlace.Sorts place le := fun _ _ => ClassPlace.bne_gt_eq_isLE _

/-- Diagnostics in order, one more than before. -/
structure OneMore (d : Diagnostic) (before after : List Diagnostic) : Prop where
  inserted : ∃ front back, before = front ++ back ∧ after = front ++ d :: back
  sorted : after.Pairwise fun a b => ClassPlace.InOrder a.place b.place

theorem oneMore_arrange (xs ys : List Diagnostic) (d : Diagnostic) :
    OneMore d (arrange (xs ++ ys)) (arrange (xs ++ d :: ys)) where
  inserted := sorts_diagnostic.ranks.exists_mergeSort_insert xs ys d
  sorted := sorts_diagnostic.inOrder_mergeSort _

end Diagnostic

/-! ## Classes in projects -/

/-- Each of some sources has an entry of its own among the test classes, joined with the compiled
class of its name or as it is. -/
def Project.HasEntries (p : Project) (compiled : List CompiledClass) (sources : List TestClass) :
    Prop :=
  ∃ entries, List.Forall₂
      (fun c entry => entry = c ∨ entry = c.joinedWith (lastNamed? compiled c.qualifiedName))
      sources entries
    ∧ entries.Subperm p.testClasses

theorem joinedAt_eq_or (view : String → Option CompiledClass) (sources : List TestClass)
    (i : Fin sources.length) :
    joinedAt view sources i = sources.get i ∨ joinedAt view sources i
      = (sources.get i).joinedWith (view (sources.get i).qualifiedName) := by
  unfold joinedAt
  split
  · exact Or.inl rfl
  · exact Or.inr rfl

theorem forall₂_joinedAt (view : String → Option CompiledClass) (sources : List TestClass) :
    List.Forall₂ (fun c entry => entry = c ∨ entry = c.joinedWith (view c.qualifiedName)) sources
      (List.ofFn (joinedAt view sources)) := by
  refine List.forall₂_iff_get.mpr ⟨List.length_ofFn.symm, fun i hi _ => ?_⟩
  rw [List.get_ofFn]
  exact joinedAt_eq_or view sources ⟨i, hi⟩

theorem hasEntries_merge (xs sources ys : List TestClass) (compiled : List CompiledClass) :
    (Project.merge (xs ++ (sources ++ ys)) compiled).HasEntries compiled sources := by
  have hall := forall₂_joinedAt (lastNamed? compiled) (xs ++ (sources ++ ys))
  have hpart := List.forall₂_take sources.length (List.forall₂_drop xs.length hall)
  rw [List.drop_left, List.take_left] at hpart
  refine ⟨_, hpart, ?_⟩
  have hsub := (List.take_sublist sources.length _).trans (List.drop_sublist xs.length
    (List.ofFn (joinedAt (lastNamed? compiled) (xs ++ (sources ++ ys)))))
  rw [merge_eq_assemble, joinSources_compiledByName_fst]
  refine List.Subperm.trans ?_ (List.mergeSort_perm _ _).symm.subperm
  exact (hsub.trans (List.sublist_append_left _ _)).subperm

/-! ## Files -/

/-- A class file without a class of its own: of an interface, an annotation type, a module, a nested
class, or one that describes a package or module. -/
def ClassFile.CompiledClass.SetAside (c : CompiledClass) : Prop :=
  ClassFile.hasFlag c.access .interface = true
    ∨ ClassFile.hasFlag c.access .annotationType = true
    ∨ ClassFile.hasFlag c.access .module = true
    ∨ '$' ∈ c.simpleName.toList ∨ c.simpleName = "package-info" ∨ c.simpleName = "module-info"

theorem compiledClass?_of_setAside {c : CompiledClass} (h : c.SetAside) (path : Path) :
    Examined.compiledClass? ⟨path, .ok c⟩ = none := by
  have hor : c.isTypeDeclaration = false ∨ c.isAuxiliary = true := by
    unfold CompiledClass.isTypeDeclaration CompiledClass.isAuxiliary
    rcases h with h | h | h | h | h | h
    · exact Or.inl (by rw [h]; rfl)
    · exact Or.inl (by rw [h, Bool.or_true]; rfl)
    · exact Or.inl (by rw [h, Bool.or_true]; rfl)
    · exact Or.inr (by rw [List.contains_iff_mem.mpr h]; rfl)
    · exact Or.inr (by rw [h]; simp)
    · exact Or.inr (by rw [h]; simp)
  simp only [Examined.compiledClass?]
  rcases hor with hor | hor
  · rw [hor]
    rfl
  · rw [hor, Bool.not_true, Bool.and_false]
    rfl

section

variable (sources sources' : List (Examined SourceClasses))
  (classes classes' : List (Examined CompiledClass))

theorem oneMore_source {file : Examined SourceClasses} {d : Diagnostic}
    (h : file.sourceDiagnostic? = some d) :
    Diagnostic.OneMore d (Ingested.ofFiles (sources ++ sources') classes).diagnostics
      (Ingested.ofFiles (sources ++ file :: sources') classes).diagnostics := by
  simp only [Ingested.ofFiles, List.filterMap_append, List.filterMap_cons_some h,
    List.append_assoc, List.cons_append]
  exact Diagnostic.oneMore_arrange _ _ d

theorem oneMore_class {file : Examined CompiledClass} {d : Diagnostic}
    (h : file.classDiagnostic? = some d) :
    Diagnostic.OneMore d (Ingested.ofFiles sources (classes ++ classes')).diagnostics
      (Ingested.ofFiles sources (classes ++ file :: classes')).diagnostics := by
  simp only [Ingested.ofFiles, List.filterMap_append, List.filterMap_cons_some h]
  rw [← List.append_assoc, ← List.append_assoc]
  exact Diagnostic.oneMore_arrange _ _ d

theorem diagnostic_path {d : Diagnostic}
    (hd : d ∈ (Ingested.ofFiles sources classes).diagnostics) :
    d.path ∈ sources.map Examined.path ∨ d.path ∈ classes.map Examined.path := by
  have hd := List.mem_mergeSort.mp hd
  rcases List.mem_append.mp hd with hd | hd
  · obtain ⟨file, hfile, hdiagnostic⟩ := List.mem_filterMap.mp hd
    refine Or.inl (List.mem_map.mpr ⟨file, hfile, ?_⟩)
    unfold Examined.sourceDiagnostic? at hdiagnostic
    split at hdiagnostic
    · split at hdiagnostic <;> cases hdiagnostic
      rfl
    · cases hdiagnostic
      rfl
  · obtain ⟨file, hfile, hdiagnostic⟩ := List.mem_filterMap.mp hd
    refine Or.inr (List.mem_map.mpr ⟨file, hfile, ?_⟩)
    unfold Examined.classDiagnostic? at hdiagnostic
    split at hdiagnostic <;> cases hdiagnostic
    rfl

end

/-! ## Files on disk -/

section

variable {fs : FileSystem} {path : Path}

theorem examineSource_path : (examineSource fs path).path = path := by
  unfold examineSource
  split <;> rfl

theorem examineClass_path : (examineClass fs path).path = path := by
  unfold examineClass
  split
  · rfl
  · split <;> rfl

/-- A source fails if it cannot be read as text. -/
theorem examineSource_fails_iff :
    (∃ failure, (examineSource fs path).result = .error failure) ↔
      ∃ error, fs.readText path = .error error := by
  unfold examineSource
  split
  · rename_i error hread
    exact ⟨fun _ => ⟨error, hread⟩, fun _ => ⟨_, rfl⟩⟩
  · rename_i text hread
    simp [hread]

/-- A class file fails if it cannot be read or decoded. -/
theorem examineClass_fails_iff :
    (∃ failure, (examineClass fs path).result = .error failure) ↔
      ∀ bytes, fs.read path = .ok bytes → ∃ fault, ClassFile.decode path bytes = .error fault := by
  unfold examineClass
  split
  · rename_i error hread
    simp [hread]
  · rename_i bytes hread
    split
    · rename_i c hdecode
      simp [hread, hdecode]
    · rename_i fault hdecode
      simp [hread, hdecode]

/-- The files of a kind that are found below a directory. -/
def Found (fs : FileSystem) (root : Path) (ext : String) (exclude : List String)
    (files : List Path) : Prop :=
  ∃ directory filter, absoluteRoot fs root = .ok directory
    ∧ FileFilter.new ext exclude = .ok filter ∧ fs.scan filter directory = .ok files

theorem ingest_eq_ok {sourceRoot classRoot : Path} {exclude : List String} {result : Ingested}
    (h : ingest fs sourceRoot classRoot exclude = .ok result) :
    ∃ sourceFiles classFiles, Found fs sourceRoot "java" exclude sourceFiles
      ∧ Found fs classRoot "class" exclude classFiles
      ∧ result = Ingested.ofFiles (sourceFiles.map (examineSource fs))
          (classFiles.map (examineClass fs)) := by
  obtain ⟨sourceDirectory, hsource, h⟩ := FileSystem.bind_eq_ok.mp h
  obtain ⟨classDirectory, hclass, h⟩ := FileSystem.bind_eq_ok.mp h
  obtain ⟨sourceFilter, hsourceFilter, h⟩ := FileSystem.bind_eq_ok.mp h
  obtain ⟨sourceFiles, hsourceFiles, h⟩ := FileSystem.bind_eq_ok.mp h
  obtain ⟨classFilter, hclassFilter, h⟩ := FileSystem.bind_eq_ok.mp h
  obtain ⟨classFiles, hclassFiles, h⟩ := FileSystem.bind_eq_ok.mp h
  cases h
  exact ⟨sourceFiles, classFiles, ⟨_, _, hsource, hsourceFilter, hsourceFiles⟩,
    ⟨_, _, hclass, hclassFilter, hclassFiles⟩, rfl⟩

end

/-- **Bad files are kept apart.** Among any files with any outcomes, a file that cannot be read or
parsed leaves the project as it is and adds one diagnostic with its path; a class file that is set
aside changes nothing; a source with syntax errors adds one diagnostic that says so, while all its
classes have entries in the project, which is the one without the errors. Every diagnostic names one
of the files. What is read from two directories is what the files give that are found there. -/
theorem ingested_files_isolated (sources sources' : List (Examined SourceClasses))
    (classes classes' : List (Examined CompiledClass)) (path : Path) :
    (∀ failure,
      (Ingested.ofFiles (sources ++ ⟨path, .error failure⟩ :: sources') classes).project
          = (Ingested.ofFiles (sources ++ sources') classes).project
      ∧ Diagnostic.OneMore ⟨path, failure.message⟩
          (Ingested.ofFiles (sources ++ sources') classes).diagnostics
          (Ingested.ofFiles (sources ++ ⟨path, .error failure⟩ :: sources') classes).diagnostics)
    ∧ (∀ failure,
      (Ingested.ofFiles sources (classes ++ ⟨path, .error failure⟩ :: classes')).project
          = (Ingested.ofFiles sources (classes ++ classes')).project
      ∧ Diagnostic.OneMore ⟨path, failure.message⟩
          (Ingested.ofFiles sources (classes ++ classes')).diagnostics
          (Ingested.ofFiles sources (classes ++ ⟨path, .error failure⟩ :: classes')).diagnostics)
    ∧ (∀ c : CompiledClass, c.SetAside →
      Ingested.ofFiles sources (classes ++ ⟨path, .ok c⟩ :: classes')
        = Ingested.ofFiles sources (classes ++ classes'))
    ∧ (∀ recovered : List TestClass,
      Diagnostic.OneMore ⟨path, "syntax errors"⟩
          (Ingested.ofFiles (sources ++ sources') classes).diagnostics
          (Ingested.ofFiles (sources ++ ⟨path, .ok ⟨true, recovered⟩⟩ :: sources')
            classes).diagnostics
      ∧ (Ingested.ofFiles (sources ++ ⟨path, .ok ⟨true, recovered⟩⟩ :: sources')
          classes).project.HasEntries (classes.filterMap Examined.compiledClass?) recovered
      ∧ (Ingested.ofFiles (sources ++ ⟨path, .ok ⟨true, recovered⟩⟩ :: sources') classes).project
          = (Ingested.ofFiles (sources ++ ⟨path, .ok ⟨false, recovered⟩⟩ :: sources')
              classes).project)
    ∧ (∀ d ∈ (Ingested.ofFiles sources classes).diagnostics,
      d.path ∈ sources.map Examined.path ∨ d.path ∈ classes.map Examined.path)
    ∧ (∀ fs : FileSystem,
      ((∃ failure, (examineSource fs path).result = .error failure) ↔
        ∃ error, fs.readText path = .error error)
      ∧ ((∃ failure, (examineClass fs path).result = .error failure) ↔
        ∀ bytes, fs.read path = .ok bytes → ∃ fault, ClassFile.decode path bytes = .error fault))
    ∧ ∀ fs sourceRoot classRoot exclude result,
      ingest fs sourceRoot classRoot exclude = .ok result →
      ∃ sourceFiles classFiles, Found fs sourceRoot "java" exclude sourceFiles
        ∧ Found fs classRoot "class" exclude classFiles
        ∧ result = Ingested.ofFiles (sourceFiles.map (examineSource fs))
            (classFiles.map (examineClass fs))
        ∧ ∀ d ∈ result.diagnostics, d.path ∈ sourceFiles ∨ d.path ∈ classFiles := by
  refine ⟨fun failure => ⟨?_, oneMore_source _ _ _ rfl⟩,
    fun failure => ⟨?_, oneMore_class _ _ _ rfl⟩, fun c hc => ?_,
    fun recovered => ⟨oneMore_source _ _ _ rfl, ?_, ?_⟩,
    fun d hd => diagnostic_path _ _ hd, fun fs => ⟨examineSource_fails_iff, examineClass_fails_iff⟩,
    fun fs sourceRoot classRoot exclude result hresult => ?_⟩
  · simp only [Ingested.ofFiles, List.flatMap_append, List.flatMap_cons]
    rfl
  · simp only [Ingested.ofFiles, List.filterMap_append, List.filterMap_cons]
    rfl
  · simp only [Ingested.ofFiles, List.filterMap_append,
      List.filterMap_cons_none (compiledClass?_of_setAside hc path)]
    rfl
  · simp only [Ingested.ofFiles, List.flatMap_append, List.flatMap_cons]
    exact hasEntries_merge _ recovered _ _
  · simp only [Ingested.ofFiles, List.flatMap_append, List.flatMap_cons]
    rfl
  · obtain ⟨sourceFiles, classFiles, hsource, hclass, rfl⟩ := ingest_eq_ok hresult
    refine ⟨sourceFiles, classFiles, hsource, hclass, rfl, fun d hd => ?_⟩
    have hpath := diagnostic_path _ _ hd
    simpa only [List.map_map, Function.comp_def, examineSource_path, examineClass_path,
      List.map_id'] using hpath

/-! ### A class file of no bytes -/

/-- A directory with one class file, which has no bytes. -/
def FileSystem.emptyClass : FileSystem where
  nodes := [(["t"], .directory), (["t", "A.class"], .file 0 [])]

theorem FileSystem.lookup_emptyClass : emptyClass.lookup ⟨"/t"⟩ = .ok (["t"], .directory) := by
  have hplace : emptyClass.locate ⟨"/t"⟩ = .ok ["t"] :=
    locate_eq_ok.mpr ⟨⟨by simp, by decide, by decide⟩, rfl, by decide⟩
  exact lookup_eq_ok.mpr ⟨hplace, by decide, rfl⟩

theorem FileSystem.scan_emptyClass {ext : String} (wanted : Bool)
    (h : FileFilter.includes ⟨ext, []⟩ ⟨"/t/A.class"⟩ ⟨"A.class"⟩ = wanted) :
    emptyClass.scan ⟨ext, []⟩ ⟨"/t"⟩ = .ok (if wanted then [⟨"/t/A.class"⟩] else []) := by
  have hpaths : emptyClass.filePaths ⟨"/t"⟩ ["t"] = [⟨"/t/A.class"⟩] := by decide
  have hrelative : Path.relativeTo? ⟨"/t"⟩ ⟨"/t/A.class"⟩ = some ⟨"A.class"⟩ := by decide
  cases wanted <;> simp [scan, lookup_emptyClass, hpaths, hrelative, h]

theorem examineClass_emptyClass : examineClass .emptyClass ⟨"/t/A.class"⟩
    = ⟨⟨"/t/A.class"⟩, .error (.parse ⟨"/t/A.class"⟩ "unexpected end of class file")⟩ := by
  have hplace : FileSystem.emptyClass.locate ⟨"/t/A.class"⟩ = .ok ["t", "A.class"] :=
    FileSystem.locate_eq_ok.mpr ⟨⟨by simp, by decide, by decide⟩, rfl, by decide⟩
  have hread : FileSystem.emptyClass.read ⟨"/t/A.class"⟩ = .ok [] :=
    FileSystem.read_eq_ok.mpr ⟨_, 0, FileSystem.lookup_eq_ok.mpr ⟨hplace, by decide, rfl⟩⟩
  rw [examineClass, hread]
  rfl

theorem ingest_emptyClass : ingest .emptyClass ⟨"/t"⟩ ⟨"/t"⟩ []
    = .ok (Ingested.ofFiles [] [⟨⟨"/t/A.class"⟩,
        .error (.parse ⟨"/t/A.class"⟩ "unexpected end of class file")⟩]) := by
  have hroot : absoluteRoot .emptyClass ⟨"/t"⟩ = .ok ⟨"/t"⟩ := by
    rw [absoluteRoot, FileSystem.canonicalize, FileSystem.lookup_emptyClass]
    rfl
  rw [← examineClass_emptyClass]
  refine FileSystem.bind_eq_ok.mpr ⟨_, hroot, FileSystem.bind_eq_ok.mpr ⟨_, hroot, ?_⟩⟩
  refine FileSystem.bind_eq_ok.mpr ⟨⟨"java", []⟩, rfl, ?_⟩
  refine FileSystem.bind_eq_ok.mpr ⟨_, FileSystem.scan_emptyClass false (by decide), ?_⟩
  refine FileSystem.bind_eq_ok.mpr ⟨⟨"class", []⟩, rfl, ?_⟩
  exact FileSystem.bind_eq_ok.mpr ⟨_, FileSystem.scan_emptyClass true (by decide), rfl⟩

/-- A public interface without methods. -/
def ClassFile.CompiledClass.marker : CompiledClass where
  qualifiedName := "shop.Marker"
  path := ⟨"/t/Marker.class"⟩
  access := 0x0601
  superName := some "java.lang.Object"
  interfaces := []
  fields := []
  methods := []

/-- An interface is set aside, and the class file of no bytes is the one that is named. -/
theorem ingested_files_isolated_emptyClass :
    (CompiledClass.marker.SetAside
      ∧ Ingested.ofFiles [] [⟨⟨"/t/Marker.class"⟩, .ok .marker⟩] = Ingested.ofFiles [] [])
    ∧ ∃ result d, ingest .emptyClass ⟨"/t"⟩ ⟨"/t"⟩ [] = .ok result ∧ d ∈ result.diagnostics
      ∧ ∃ sourceFiles classFiles, Found .emptyClass ⟨"/t"⟩ "java" [] sourceFiles
        ∧ Found .emptyClass ⟨"/t"⟩ "class" [] classFiles
        ∧ (d.path ∈ sourceFiles ∨ d.path ∈ classFiles) := by
  have h := ingested_files_isolated [] [] [] [] ⟨"/t/Marker.class"⟩
  have haside : CompiledClass.marker.SetAside := Or.inl (by decide)
  have hd : ⟨⟨"/t/A.class"⟩, (Failure.parse ⟨"/t/A.class"⟩ "unexpected end of class file").message⟩
      ∈ (Ingested.ofFiles [] [⟨⟨"/t/A.class"⟩,
          .error (.parse ⟨"/t/A.class"⟩ "unexpected end of class file")⟩]).diagnostics :=
    List.mem_mergeSort.mpr (List.mem_singleton.mpr rfl)
  obtain ⟨sourceFiles, classFiles, hsource, hclass, -, hnamed⟩ :=
    h.2.2.2.2.2.2 _ _ _ _ _ ingest_emptyClass
  exact ⟨⟨haside, h.2.2.1 _ haside⟩, _, _, ingest_emptyClass, hd, sourceFiles, classFiles, hsource,
    hclass, hnamed _ hd⟩

end SuiteLint
