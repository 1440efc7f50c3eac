import Mathlib.Algebra.BigOperators.Fin
import Mathlib.Algebra.Order.BigOperators.Group.Finset
import Mathlib.Logic.Relation
import SuiteLint.Proofs.Model.CacheStep

/-!
# Requests that interleave

Any number of requests for one cached model take their steps in any order, and each may crash
between two of them, which gives back the lock it holds. No file operation fails and nobody gives up
waiting for the lock. `Invariant` says what every reachable state keeps: one live request at most
holds the lock, one live request at most has asked its origin, and once the marker vouches for the
file it does so forever. `interleaved_requests_agree` draws the conclusion: all requests that return
give the same bytes, and origins are asked once, apart from crashes, unless the cache was good from
the start.
-/

namespace SuiteLint.Model.Cache

/-- Requests that work on the same files. -/
structure System (n : Nat) where
  requests : Fin n → Request
  crashed : Finset (Fin n) := ∅
  files : FileSystem

namespace System

variable {n : Nat}

/-- How often origins have been asked by all requests together. -/
def fetches (s : System n) : Nat := ∑ i, (s.requests i).fetches

/-- The files as the process of a request works on them. -/
def filesFor (process : Fin n → Nat) (s : System n) (i : Fin n) : FileSystem :=
  { s.files with process := process i }

/-- One request and the files are replaced. -/
def put (s : System n) (i : Fin n) (r : Request) (files : FileSystem) : System n :=
  { s with requests := Function.update s.requests i r, files }

/-- One request takes a step; if another one holds the lock, it goes on waiting. -/
def act (process : Fin n → Nat) (s : System n) (i : Fin n) : System n :=
  let result := (s.requests i).step true (s.filesFor process i)
  s.put i result.1 result.2

/-- The files after a request is gone: a lock that it holds is given back. -/
def filesWithout (s : System n) (i : Fin n) : FileSystem :=
  match (s.requests i).phase.lock? with
  | some lock => s.files.release lock
  | none => s.files

/-- One request crashes. -/
def crash (s : System n) (i : Fin n) : System n :=
  { s with crashed := insert i s.crashed, files := s.filesWithout i }

/-- What can happen next: a live request takes a smooth step, or crashes before it has returned. -/
inductive Step (process : Fin n → Nat) (s : System n) : System n → Prop
  | act (i : Fin n) (live : i ∉ s.crashed) (smooth : Smooth (s.requests i) (s.filesFor process i)) :
    Step process s (s.act process i)
  | crash (i : Fin n) (live : i ∉ s.crashed) (running : (s.requests i).result? = none) :
    Step process s (s.crash i)

/-- Fresh requests for one path. -/
def start (origins : Fin n → Origin) (path : Path) (fs : FileSystem) : System n :=
  { requests := fun i => { origin := origins i, path }, files := fs }

/-- No two live requests have a property. -/
def AtMostOne (s : System n) (P : Request → Prop) : Prop :=
  ∀ i ∉ s.crashed, ∀ j ∉ s.crashed, P (s.requests i) → P (s.requests j) → i = j

/-- What every reachable state keeps, where `fs` are the files at the start. -/
structure Invariant (process : Fin n → Nat) (path : Path) (fs : FileSystem) (s : System n) :
    Prop where
  samePath : ∀ i, (s.requests i).path = path
  origin : ∀ i, ∃ bytes, (s.requests i).origin.fetch = .ok bytes
  unreturned : ∀ i ∈ s.crashed, (s.requests i).result? = none
  sound : ∀ i ∉ s.crashed,
    (s.requests i).phase.Sound path (process i) s.files (s.requests i).fetches
  held : ∀ i ∉ s.crashed, ∀ lock, (s.requests i).phase.lock? = some lock → Held s.files path lock
  exclusive : s.AtMostOne fun r => r.phase.lock? ≠ none
  once : ∀ i, (s.requests i).fetches ≤ 1
  single : s.AtMostOne fun r => r.fetches ≠ 0
  kept : ∀ bytes, Vouched fs path bytes → Vouched s.files path bytes
  caused : ∀ bytes, Vouched s.files path bytes →
    Vouched fs path bytes ∨ ∃ i, (s.requests i).fetches ≠ 0
  unasked : (∃ bytes, Vouched fs path bytes) → ∀ i, (s.requests i).fetches = 0

end System

/-! ## What a request may count on while others act -/

section Stability

variable {fs gs : FileSystem} {path : Path} {process fetches : Nat} {phase : Phase}

/-- Nobody notices a change that spares the cache. -/
theorem Phase.Sound.of_spares (h : phase.Sound path process fs fetches) (hs : Spares path fs gs) :
    phase.Sound path process gs fetches := by
  have hfile := hs.holds _ .file
  have hstaged := hs.holds _ (.staging process)
  have hstaged' := hs.holds _ (.stagingMarker process)
  have hvouched : (∃ bytes, Vouched gs path bytes) ↔ ∃ bytes, Vouched fs path bytes :=
    exists_congr hs.vouched_iff
  cases phase with
  | readMarker occasion => cases occasion <;> exact h
  | readFile occasion digest =>
      cases occasion with
      | first => exact ⟨h.1, by rw [hs.marked_iff, hvouched]; exact h.2⟩
      | locked lock => exact ⟨h.1, (hs.marked_iff digest).mpr h.2⟩
      | waiting => exact h
  | fetch lock => exact ⟨h.1, by rw [hvouched]; exact h.2⟩
  | stageFile lock bytes => exact ⟨h.1, by rw [hvouched]; exact h.2⟩
  | publishFile lock bytes =>
      exact ⟨h.1, by rw [hvouched]; exact h.2.1, (hstaged bytes).mpr h.2.2⟩
  | stageMarker lock bytes => exact ⟨h.1, (hfile bytes).mpr h.2⟩
  | publishMarker lock bytes =>
      exact ⟨h.1, (hfile bytes).mpr h.2.1, (hstaged' _).mpr h.2.2⟩
  | unlock lock answer =>
      obtain ⟨hle, bytes, hok, hbytes⟩ := h
      exact ⟨hle, bytes, hok, (hs.vouched_iff bytes).mpr hbytes⟩
  | done answer =>
      obtain ⟨hle, bytes, hok, hbytes⟩ := h
      exact ⟨hle, bytes, hok, (hs.vouched_iff bytes).mpr hbytes⟩
  | _ => exact h

/-- Without the lock, a request counts on nothing that the holder of the lock undoes. -/
theorem Phase.Sound.of_advances (h : phase.Sound path process fs fetches)
    (hlock : phase.lock? = none) (ha : Advances path fs gs) :
    phase.Sound path process gs fetches := by
  cases phase with
  | readMarker occasion =>
      cases occasion with
      | first => exact h
      | locked lock => cases hlock
      | waiting => exact h
  | readFile occasion digest =>
      cases occasion with
      | first =>
          refine ⟨h.1, ?_⟩
          rcases h.2 with hmarked | ⟨bytes, hbytes⟩
          · exact ha.marked digest hmarked
          · exact Or.inr ⟨bytes, ha.vouched bytes hbytes⟩
      | locked lock => cases hlock
      | waiting => exact h
  | takeLock => exact h
  | await => exact h
  | fetchOnly => exact h
  | done answer =>
      obtain ⟨hle, bytes, hok, hbytes⟩ := h
      exact ⟨hle, bytes, hok, ha.vouched bytes hbytes⟩
  | _ => cases hlock

theorem Phase.Sound.fetches_le (h : phase.Sound path process fs fetches) : fetches ≤ 1 := by
  cases phase with
  | readMarker occasion => cases occasion <;> simp only [Phase.Sound] at h <;> omega
  | readFile occasion digest => cases occasion <;> simp only [Phase.Sound] at h <;> omega
  | _ => simp only [Phase.Sound] at h <;> omega

/-- Whoever has asked its origin still holds the lock, or the cache is good by now. -/
theorem Phase.Sound.settled (h : phase.Sound path process fs fetches) (hfetches : fetches ≠ 0) :
    phase.lock? ≠ none ∨ ∃ bytes, Vouched fs path bytes := by
  cases phase with
  | readMarker occasion => cases occasion <;> first | exact h.elim | exact absurd h hfetches
  | readFile occasion digest =>
      cases occasion <;> first | exact h.elim | exact absurd h.1 hfetches
  | takeLock => exact absurd h hfetches
  | await => exact h.elim
  | fetchOnly => exact h.elim
  | done answer =>
      obtain ⟨-, bytes, -, hbytes⟩ := h
      exact Or.inr ⟨bytes, hbytes⟩
  | _ => exact Or.inl nofun

end Stability

/-! ## Every step keeps the invariant -/

namespace System

variable {n : Nat} {process : Fin n → Nat} {path : Path} {fs gs : FileSystem} {s : System n}
  {i : Fin n} {r : Request}

theorem put_requests_self (s : System n) (i : Fin n) (r : Request) (gs : FileSystem) :
    (s.put i r gs).requests i = r := by
  rw [put]
  exact Function.update_self i r s.requests

theorem put_requests_of_ne (s : System n) {i k : Fin n} (h : k ≠ i) (r : Request)
    (gs : FileSystem) : (s.put i r gs).requests k = s.requests k := by
  rw [put]
  exact Function.update_of_ne h r s.requests

theorem forall_put {P : Fin n → Request → Prop} (hself : P i r)
    (hother : ∀ k, k ≠ i → P k (s.requests k)) (k : Fin n) : P k ((s.put i r gs).requests k) := by
  by_cases hk : k = i
  · subst hk
    rw [put_requests_self]
    exact hself
  · rw [put_requests_of_ne s hk]
    exact hother k hk

theorem AtMostOne.put {P : Request → Prop} (h : s.AtMostOne P)
    (halone : ∀ k ∉ s.crashed, k ≠ i → P r → ¬P (s.requests k)) : (s.put i r gs).AtMostOne P := by
  intro j hj k hk hPj hPk
  by_cases hji : j = i
  · by_contra hne
    subst hji
    have hkj : k ≠ j := fun h => hne h.symm
    rw [put_requests_self] at hPj
    rw [put_requests_of_ne s hkj] at hPk
    exact halone k hk hkj hPj hPk
  · rw [put_requests_of_ne s hji] at hPj
    by_cases hki : k = i
    · subst hki
      rw [put_requests_self] at hPk
      exact absurd hPj (halone j hj hji hPk)
    · rw [put_requests_of_ne s hki] at hPk
      exact h j hj k hk hPj hPk

theorem Invariant.start {origins : Fin n → Origin}
    (h : ∀ i, ∃ bytes, (origins i).fetch = .ok bytes) :
    Invariant process path fs (start origins path fs) where
  samePath := fun _ => rfl
  origin := h
  unreturned := fun i hi => absurd hi (Finset.notMem_empty i)
  sound := fun _ _ => rfl
  held := fun _ _ _ h => nomatch h
  exclusive := fun _ _ _ _ h => absurd rfl h
  once := fun _ => Nat.zero_le 1
  single := fun _ _ _ _ h => absurd rfl h
  kept := fun _ h => h
  caused := fun _ h => Or.inl h
  unasked := fun _ _ => rfl

/-- Beside a request that comes to hold the lock, no other one has it. -/
theorem Invariant.alone_with_lock (h : Invariant process path fs s) (live : i ∉ s.crashed)
    (hspec : StepSpec (s.requests i) (s.filesFor process i) r gs) {k : Fin n}
    (hk : k ∉ s.crashed) (hne : k ≠ i) (hlock : r.phase.lock? ≠ none) :
    (s.requests k).phase.lock? = none := by
  by_contra hother
  by_cases hbefore : (s.requests i).phase.lock? = none
  · obtain ⟨lock, hsome⟩ := Option.ne_none_iff_exists'.mp hother
    have hheld := h.held k hk lock hsome
    rw [← h.samePath i] at hheld
    exact hspec.taken hbefore hlock lock (hheld.withProcess _)
  · exact hne (h.exclusive k hk i live hother hbefore)

/-- Beside a request that has asked its origin, no other live one has. -/
theorem Invariant.alone_asked (h : Invariant process path fs s) (live : i ∉ s.crashed)
    (hspec : StepSpec (s.requests i) (s.filesFor process i) r gs) {k : Fin n}
    (hk : k ∉ s.crashed) (hne : k ≠ i) (hasked : r.fetches ≠ 0) :
    (s.requests k).fetches = 0 := by
  by_contra hother
  by_cases hsame : r.fetches = (s.requests i).fetches
  · have hbefore : (s.requests i).fetches ≠ 0 := hsame ▸ hasked
    exact hne (h.single k hk i live hother hbefore)
  · -- It asks in this very step, so it has the lock and nothing is vouched for.
    obtain ⟨hlock, hwanting⟩ := hspec.asked hsame
    rw [h.samePath i] at hwanting
    rcases (h.sound k hk).settled hother with hlock' | hvouched
    · exact hne (h.exclusive k hk i live hlock' hlock)
    · exact hwanting hvouched

/-- Other requests stay sound. -/
theorem Invariant.sound_other (h : Invariant process path fs s) (live : i ∉ s.crashed)
    (hspec : StepSpec (s.requests i) (s.filesFor process i) r gs) {k : Fin n}
    (hk : k ∉ s.crashed) (hne : k ≠ i) :
    (s.requests k).phase.Sound path (process k) gs (s.requests k).fetches := by
  have hsound : (s.requests k).phase.Sound path (process k) (s.filesFor process i)
      (s.requests k).fetches := h.sound k hk
  by_cases hlock : (s.requests i).phase.lock? = none
  · have hspares := hspec.spares hlock
    rw [h.samePath i] at hspares
    exact Phase.Sound.of_spares hsound hspares
  · have hadvances := hspec.advances
    rw [h.samePath i] at hadvances
    have hother : (s.requests k).phase.lock? = none := by
      by_contra hother
      exact hne (h.exclusive k hk i live hother hlock)
    exact Phase.Sound.of_advances hsound hother hadvances

/-- Other requests keep the lock. -/
theorem Invariant.held_other (h : Invariant process path fs s) (live : i ∉ s.crashed)
    (hspec : StepSpec (s.requests i) (s.filesFor process i) r gs) {k : Fin n}
    (hk : k ∉ s.crashed) (hne : k ≠ i) {lock : Nat}
    (hlock : (s.requests k).phase.lock? = some lock) : Held gs path lock := by
  have hsome : (s.requests k).phase.lock? ≠ none := by
    rw [hlock]
    exact nofun
  by_cases hbefore : (s.requests i).phase.lock? = none
  · have hspares := hspec.spares hbefore
    rw [h.samePath i] at hspares
    exact hspares.held lock ((h.held k hk lock hlock).withProcess _)
  · exact absurd (h.exclusive k hk i live hsome hbefore) hne

theorem Invariant.put (h : Invariant process path fs s) (live : i ∉ s.crashed)
    (hspec : StepSpec (s.requests i) (s.filesFor process i) r gs) :
    Invariant process path fs (s.put i r gs) := by
  have hpath := h.samePath i
  constructor
  case samePath =>
    exact forall_put (P := fun _ q => q.path = path) (hspec.path.trans hpath)
      fun k _ => h.samePath k
  case origin =>
    refine forall_put (P := fun _ q => ∃ bytes, q.origin.fetch = .ok bytes) ?_ fun k _ => h.origin k
    rw [hspec.origin]
    exact h.origin i
  case unreturned =>
    intro k hcrashed
    have hk : k ≠ i := fun hk => live (hk ▸ hcrashed)
    rw [put_requests_of_ne s hk]
    exact h.unreturned k hcrashed
  case sound =>
    refine forall_put (P := fun k q => k ∉ s.crashed → q.phase.Sound path (process k) gs q.fetches)
      (fun _ => ?_) fun k hk hlive => h.sound_other live hspec hlive hk
    rw [← hpath]
    exact hspec.sound
  case held =>
    refine forall_put
      (P := fun k q => k ∉ s.crashed → ∀ lock, q.phase.lock? = some lock → Held gs path lock)
      (fun _ lock hlock => ?_) fun k hk hlive lock hlock => h.held_other live hspec hlive hk hlock
    rw [← hpath]
    exact hspec.held lock hlock
  case exclusive =>
    refine h.exclusive.put fun k hk hne hlock hother => ?_
    exact hother (h.alone_with_lock live hspec hk hne hlock)
  case once =>
    exact forall_put (P := fun _ q => q.fetches ≤ 1) hspec.sound.fetches_le fun k _ => h.once k
  case single =>
    refine h.single.put fun k hk hne hasked hother => ?_
    exact hother (h.alone_asked live hspec hk hne hasked)
  case kept =>
    intro bytes hbytes
    have hvouched := hspec.advances.vouched bytes
    rw [hpath] at hvouched
    exact hvouched (h.kept bytes hbytes)
  case caused =>
    intro bytes hbytes
    have hcaused := hspec.caused bytes
    rw [hpath] at hcaused
    rcases hcaused hbytes with hbefore | hasked
    · refine (h.caused bytes hbefore).imp_right ?_
      rintro ⟨k, hk⟩
      have hgrow : (s.requests k).fetches ≤ ((s.put i r gs).requests k).fetches :=
        forall_put (P := fun k q => (s.requests k).fetches ≤ q.fetches) hspec.fetches
          (fun k _ => Nat.le_refl _) k
      exact ⟨k, by omega⟩
    · refine Or.inr ⟨i, ?_⟩
      rw [put_requests_self]
      exact hasked
  case unasked =>
    intro hvouched
    refine forall_put (P := fun _ q => q.fetches = 0) ?_ fun k _ => h.unasked hvouched k
    by_contra hasked
    -- Asking now would mean that the cache, good from the start, is found wanting.
    have hchange : r.fetches ≠ (s.requests i).fetches := by
      rw [h.unasked hvouched i]
      exact hasked
    have hwanting := (hspec.asked hchange).2
    rw [hpath] at hwanting
    obtain ⟨bytes, hbytes⟩ := hvouched
    exact hwanting ⟨bytes, h.kept bytes hbytes⟩

theorem Invariant.act (h : Invariant process path fs s) (live : i ∉ s.crashed)
    (smooth : Smooth (s.requests i) (s.filesFor process i)) :
    Invariant process path fs (s.act process i) := by
  refine h.put live (stepSpec_step ?_ ?_ smooth (h.origin i))
  · rw [h.samePath i]
    exact h.sound i live
  · rw [h.samePath i]
    exact fun lock hlock => (h.held i live lock hlock).withProcess _

theorem filesWithout_eq_or (s : System n) (i : Fin n) :
    (∃ lock, (s.requests i).phase.lock? = some lock ∧ s.filesWithout i = s.files.release lock) ∨
      ((s.requests i).phase.lock? = none ∧ s.filesWithout i = s.files) := by
  rw [filesWithout]
  cases (s.requests i).phase.lock? with
  | none => exact Or.inr ⟨rfl, rfl⟩
  | some lock => exact Or.inl ⟨lock, rfl, rfl⟩

/-- Giving back a lock changes nothing that a cache says. -/
theorem holds_filesWithout (s : System n) (i : Fin n) (p : Path) (content : List UInt8) :
    (s.filesWithout i).Holds p content ↔ s.files.Holds p content := by
  rcases s.filesWithout_eq_or i with ⟨lock, -, heq⟩ | ⟨-, heq⟩
  · rw [heq]
    exact Iff.rfl
  · rw [heq]

theorem AtMostOne.crash {P : Request → Prop} (h : s.AtMostOne P) : (s.crash i).AtMostOne P :=
  fun j hj k hk => h j (fun hj' => hj (Finset.mem_insert_of_mem hj')) k
    fun hk' => hk (Finset.mem_insert_of_mem hk')

theorem Invariant.crash (h : Invariant process path fs s) (live : i ∉ s.crashed)
    (running : (s.requests i).result? = none) : Invariant process path fs (s.crash i) := by
  have hvouched : ∀ bytes, Vouched (s.filesWithout i) path bytes ↔ Vouched s.files path bytes :=
    vouched_iff (s.holds_filesWithout i path) fun _ =>
      marked_iff_of_holds_iff (s.holds_filesWithout i (marker path))
  have hlive : ∀ k, k ∉ insert i s.crashed → k ≠ i ∧ k ∉ s.crashed := fun k hk =>
    not_or.mp fun hk' => hk (Finset.mem_insert.mpr hk')
  constructor
  case samePath => exact h.samePath
  case origin => exact h.origin
  case unreturned =>
    intro k hk
    rcases Finset.mem_insert.mp hk with rfl | hk
    · exact running
    · exact h.unreturned k hk
  case sound =>
    intro k hk
    have hsound := h.sound k (hlive k hk).2
    show Phase.Sound path (process k) (s.filesWithout i) _ _
    rcases s.filesWithout_eq_or i with ⟨lock, -, heq⟩ | ⟨-, heq⟩
    · rw [heq]
      exact hsound
    · rw [heq]
      exact hsound
  case held =>
    intro k hk lock hlock
    obtain ⟨hne, hk⟩ := hlive k hk
    show Held (s.filesWithout i) path lock
    rcases s.filesWithout_eq_or i with ⟨other, hother, -⟩ | ⟨-, heq⟩
    · -- The crashed request had the lock, so no other one has it.
      refine absurd (h.exclusive k hk i live ?_ ?_) hne
      · exact fun hnone => nomatch hlock.symm.trans hnone
      · exact fun hnone => nomatch hother.symm.trans hnone
    · rw [heq]
      exact h.held k hk lock hlock
  case exclusive => exact h.exclusive.crash
  case once => exact h.once
  case single => exact h.single.crash
  case kept => exact fun bytes hbytes => (hvouched bytes).mpr (h.kept bytes hbytes)
  case caused => exact fun bytes hbytes => h.caused bytes ((hvouched bytes).mp hbytes)
  case unasked => exact h.unasked

/-- The invariant holds in every state that can be reached. -/
theorem Invariant.reachable {origins : Fin n → Origin}
    (hfetch : ∀ i, ∃ bytes, (origins i).fetch = .ok bytes)
    (hrun : Relation.ReflTransGen (Step process) (System.start origins path fs) s) :
    Invariant process path fs s := by
  induction hrun with
  | refl => exact Invariant.start hfetch
  | tail _ hstep ih =>
      cases hstep with
      | act i live smooth => exact ih.act live smooth
      | crash i live running => exact ih.crash live running

/-! ## Counting -/

/-- Whoever has asked its origin has crashed, but for one request. -/
theorem Invariant.fetches_le (h : Invariant process path fs s) :
    s.fetches ≤ s.crashed.card + 1 := by
  have hsum : s.fetches ≤ (Finset.univ.filter fun i => (s.requests i).fetches ≠ 0).card := by
    rw [fetches, ← Finset.sum_filter_ne_zero]
    refine (Finset.sum_le_card_nsmul _ _ 1 fun i _ => h.once i).trans ?_
    rw [Nat.nsmul_eq_mul, Nat.mul_one]
  by_cases hasked : ∃ i, i ∉ s.crashed ∧ (s.requests i).fetches ≠ 0
  · obtain ⟨i, live, hi⟩ := hasked
    have hsub : (Finset.univ.filter fun j => (s.requests j).fetches ≠ 0) ⊆ insert i s.crashed := by
      intro j hj
      by_cases hlive : j ∈ s.crashed
      · exact Finset.mem_insert_of_mem hlive
      · have hji := h.single j hlive i live (Finset.mem_filter.mp hj).2 hi
        exact hji ▸ Finset.mem_insert_self j s.crashed
    exact hsum.trans ((Finset.card_le_card hsub).trans (Finset.card_insert_le i s.crashed))
  · have hsub : (Finset.univ.filter fun j => (s.requests j).fetches ≠ 0) ⊆ s.crashed := by
      intro j hj
      by_contra hlive
      exact hasked ⟨j, hlive, (Finset.mem_filter.mp hj).2⟩
    exact hsum.trans ((Finset.card_le_card hsub).trans (Nat.le_succ _))

/-- A request that has returned gives the bytes that the cache holds. -/
theorem Invariant.returned (h : Invariant process path fs s) {answer : Answer}
    (hresult : (s.requests i).result? = some answer) :
    ∃ bytes, answer = .ok bytes ∧ Vouched s.files path bytes := by
  have live : i ∉ s.crashed := fun hi => nomatch (h.unreturned i hi).symm.trans hresult
  have hsound := h.sound i live
  rw [Request.result?] at hresult
  split at hresult
  · rename_i answer' hphase
    cases hresult
    rw [hphase] at hsound
    exact hsound.2
  · cases hresult

/-! ## A cold start

The first of two requests finds no cache, fills it and returns, while the second has not started. -/

section ColdStart

theorem put_put (s : System n) (i : Fin n) (r r' : Request) (fs gs : FileSystem) :
    (s.put i r fs).put i r' gs = s.put i r' gs := by
  simp only [put, Function.update_idem]

/-- A step of one request, while the others stay where they are. -/
theorem step_put {r' : Request} (live : i ∉ s.crashed) (hprocess : fs.process = process i)
    (hsmooth : Smooth r fs) (hstep : r.step true fs = (r', gs)) :
    Step process (s.put i r fs) (s.put i r' gs) := by
  have hfiles : (s.put i r fs).filesFor process i = fs := by
    rw [filesFor, ← hprocess]
    rfl
  have hact : (s.put i r fs).act process i = s.put i r' gs := by
    rw [act, put_requests_self, hfiles, hstep, put_put]
  rw [← hact]
  refine .act i live ?_
  rw [put_requests_self, hfiles]
  exact hsmooth

/-- Files right below the root, in the hands of process one. -/
def coldFiles (nodes : List (Place × Node)) (nextNumber : Nat) (locked : List Nat) : FileSystem :=
  { nodes, nextNumber, locked }

/-- The phases of the first request, how often it has asked, and the files. -/
def coldTrace : Nat → Phase × Nat × FileSystem
  | 0 => (.readMarker .first, 0, coldFiles [] 0 [])
  | 1 => (.takeLock, 0, coldFiles [] 0 [])
  | 2 => (.readMarker (.locked 0), 0, coldFiles [(["m.lock"], .file 0 [])] 1 [0])
  | 3 => (.fetch 0, 0, coldFiles [(["m.lock"], .file 0 [])] 1 [0])
  | 4 => (.stageFile 0 [7], 1, coldFiles [(["m.lock"], .file 0 [])] 1 [0])
  | 5 =>
    (.publishFile 0 [7], 1,
      coldFiles [(["m.tmp.1"], .file 1 [7]), (["m.lock"], .file 0 [])] 2 [0])
  | 6 => (.stageMarker 0 [7], 1, coldFiles [(["m"], .file 1 [7]), (["m.lock"], .file 0 [])] 2 [0])
  | 7 =>
    (.publishMarker 0 [7], 1,
      coldFiles [(["m.ready.tmp.1"], .file 2 (Text.Utf8.encode (Digest.sha256Hex [7]))),
        (["m"], .file 1 [7]), (["m.lock"], .file 0 [])] 3 [0])
  | 8 =>
    (.unlock 0 (.ok [7]), 1,
      coldFiles [(["m.ready"], .file 2 (Text.Utf8.encode (Digest.sha256Hex [7]))),
        (["m"], .file 1 [7]), (["m.lock"], .file 0 [])] 3 [0])
  | _ =>
    (.done (.ok [7]), 1,
      coldFiles [(["m.ready"], .file 2 (Text.Utf8.encode (Digest.sha256Hex [7]))),
        (["m"], .file 1 [7]), (["m.lock"], .file 0 [])] 3 [])

/-- The first request at some point of its trace. -/
def coldRequest (k : Nat) : Request :=
  { origin := .custom "first" (.ok [7]), path := ⟨"m"⟩, phase := (coldTrace k).1
    fetches := (coldTrace k).2.1 }

theorem locate_coldFiles (nodes : List (Place × Node)) (next : Nat) (locked : List Nat) :
    (coldFiles nodes next locked).locate ⟨"m"⟩ = .ok ["m"] ∧
      (coldFiles nodes next locked).locate (marker ⟨"m"⟩) = .ok ["m.ready"] ∧
      (coldFiles nodes next locked).locate (lockFile ⟨"m"⟩) = .ok ["m.lock"] ∧
      (coldFiles nodes next locked).locate (staging ⟨"m"⟩ 1) = .ok ["m.tmp.1"] ∧
      (coldFiles nodes next locked).locate (staging (marker ⟨"m"⟩) 1) = .ok ["m.ready.tmp.1"] := by
  refine ⟨?_, ?_, ?_, ?_, ?_⟩ <;>
    exact FileSystem.locate_name rfl (by decide) (by decide) (by decide) (by decide) (by decide)

theorem ensureParent_coldFiles (nodes : List (Place × Node)) (next : Nat) (locked : List Nat) :
    (coldFiles nodes next locked).ensureParent ⟨"m"⟩ = (.ok (), coldFiles nodes next locked) ∧
      (coldFiles nodes next locked).ensureParent (marker ⟨"m"⟩) =
        (.ok (), coldFiles nodes next locked) ∧
      (coldFiles nodes next locked).ensureParent (lockFile ⟨"m"⟩) =
        (.ok (), coldFiles nodes next locked) :=
  ⟨rfl, rfl, rfl⟩

theorem temporary_coldFiles (nodes : List (Place × Node)) (next : Nat) (locked : List Nat)
    (p : Path) : (coldFiles nodes next locked).temporary p = staging p 1 := rfl

/-- Each point of the trace leads smoothly to the next one. -/
theorem step_coldRequest {k : Nat} (h : k < 9) :
    Smooth (coldRequest k) (coldTrace k).2.2 ∧
      (coldRequest k).step true (coldTrace k).2.2 =
        (coldRequest (k + 1), (coldTrace (k + 1)).2.2) := by
  have hk : (k = 0 ∨ k = 2) ∨ k = 1 ∨ (k = 3 ∨ k = 8) ∨ (k = 4 ∨ k = 6) ∨ k = 5 ∨ k = 7 := by
    omega
  rcases hk with hread | rfl | hpure | hstage | hpublish
  · rcases hread with rfl | rfl <;>
      simp only [Smooth, coldRequest, coldTrace, Request.step, FileSystem.readText,
        FileSystem.read, FileSystem.lookup, locate_coldFiles] <;>
      exact ⟨trivial, rfl⟩
  · simp only [Smooth, coldRequest, coldTrace, Request.step, FileSystem.acquire,
      FileSystem.openLock, FileSystem.openFile, ensureParent_coldFiles, locate_coldFiles]
    refine ⟨fun error => ?_, rfl⟩
    show Except.ok 0 ≠ Except.error _
    simp
  · rcases hpure with rfl | rfl <;> exact ⟨trivial, rfl⟩
  · rcases hstage with rfl | rfl <;>
      simp only [Smooth, coldRequest, coldTrace, Request.step, FileSystem.stage,
        FileSystem.fillTemporary, FileSystem.writeFile, FileSystem.openFile,
        ensureParent_coldFiles, temporary_coldFiles, locate_coldFiles] <;>
      exact ⟨rfl, rfl⟩
  · rcases hpublish with rfl | rfl <;>
      simp only [Smooth, coldRequest, coldTrace, Request.step, FileSystem.publish,
        FileSystem.renameFile, FileSystem.lookup, temporary_coldFiles, locate_coldFiles] <;>
      exact ⟨rfl, rfl⟩

/-- Both requests before the first step; their origins give different bytes. -/
def coldStart : System 2 :=
  start ![.custom "first" (.ok [7]), .custom "second" (.ok [8])] ⟨"m"⟩ {}

/-- The requests when the first one is at some point of its trace. -/
def coldAt (k : Nat) : System 2 := coldStart.put 0 (coldRequest k) (coldTrace k).2.2

theorem coldAt_reachable {k : Nat} (h : k ≤ 9) :
    Relation.ReflTransGen (Step fun _ => 1) coldStart (coldAt k) := by
  induction k with
  | zero =>
      have hstart : coldAt 0 = coldStart := by
        rw [coldAt, put]
        exact congrArg (System.mk · ∅ _) (Function.update_eq_self 0 _)
      rw [hstart]
  | succ k ih =>
      obtain ⟨hsmooth, hstep⟩ := step_coldRequest h
      have hprocess : (coldTrace k).2.2.process = 1 := by
        unfold coldTrace
        split <;> rfl
      exact .tail (ih (Nat.le_of_succ_le h))
        (step_put (Finset.notMem_empty 0) hprocess hsmooth hstep)

end ColdStart

/-! ## Agreement -/

/-- However requests for one path interleave and crash, those that return give the same bytes. If
the cache is good at the start, no origin is asked; otherwise origins are asked at most once more
than requests crash, and exactly once if none crashes and one returns. -/
theorem interleaved_requests_agree (process : Fin n → Nat) (origins : Fin n → Origin) (path : Path)
    (fs : FileSystem) (s : System n) (hfetch : ∀ i, ∃ bytes, (origins i).fetch = .ok bytes)
    (hrun : Relation.ReflTransGen (Step process) (start origins path fs) s) :
    (∃ bytes, ∀ i answer, (s.requests i).result? = some answer → answer = .ok bytes) ∧
      ((∃ bytes, Vouched fs path bytes) → s.fetches = 0) ∧
        ((¬∃ bytes, Vouched fs path bytes) → s.fetches ≤ s.crashed.card + 1 ∧
          (s.crashed = ∅ → (∃ i answer, (s.requests i).result? = some answer) →
            s.fetches = 1)) := by
  have hinv := Invariant.reachable hfetch hrun
  refine ⟨?_, ?_, fun hcold => ⟨hinv.fetches_le, ?_⟩⟩
  · by_cases hgood : ∃ bytes, Vouched s.files path bytes
    · obtain ⟨bytes, hbytes⟩ := hgood
      refine ⟨bytes, fun i answer hresult => ?_⟩
      obtain ⟨other, rfl, hother⟩ := hinv.returned hresult
      rw [hother.unique hbytes]
    · refine ⟨[], fun i answer hresult => ?_⟩
      obtain ⟨bytes, -, hbytes⟩ := hinv.returned hresult
      exact absurd ⟨bytes, hbytes⟩ hgood
  · intro hgood
    exact Finset.sum_eq_zero fun i _ => hinv.unasked hgood i
  · rintro hnone ⟨i, answer, hresult⟩
    have hle := hinv.fetches_le
    rw [hnone, Finset.card_empty] at hle
    obtain ⟨bytes, -, hbytes⟩ := hinv.returned hresult
    rcases hinv.caused bytes hbytes with hstart | ⟨j, hj⟩
    · exact absurd ⟨bytes, hstart⟩ hcold
    · have hge : (s.requests j).fetches ≤ s.fetches :=
        Finset.single_le_sum (f := fun k => (s.requests k).fetches) (fun _ _ => Nat.zero_le _)
          (Finset.mem_univ j)
      omega

theorem interleaved_requests_agree_coldStart :
    ((coldAt 9).requests 0).result? = some (.ok [7]) ∧ (coldAt 9).fetches = 1 := by
  have hresult : ((coldAt 9).requests 0).result? = some (.ok [7]) := by
    rw [coldAt, put_requests_self]
    rfl
  have hfetch : ∀ i : Fin 2, ∃ bytes,
      (![Origin.custom "first" (.ok [7]), .custom "second" (.ok [8])] i).fetch = .ok bytes := by
    rw [Fin.forall_fin_two]
    exact ⟨⟨[7], rfl⟩, ⟨[8], rfl⟩⟩
  have hcold : ¬∃ bytes, Vouched {} ⟨"m"⟩ bytes := by
    rintro ⟨bytes, ⟨-, number, hnode⟩, -⟩
    have hnone : FileSystem.node? {} (FileSystem.placeOf {} ⟨"m"⟩) = none := by decide
    exact nomatch hnone.symm.trans hnode
  have hagree := interleaved_requests_agree (fun _ => 1) _ _ _ _ hfetch
    (coldAt_reachable (Nat.le_refl 9))
  exact ⟨hresult, (hagree.2.2 hcold).2 rfl ⟨0, _, hresult⟩⟩

end System

end SuiteLint.Model.Cache
