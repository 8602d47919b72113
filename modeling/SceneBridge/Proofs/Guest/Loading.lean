import Mathlib.Data.List.TakeWhile
import SceneBridge.Proofs.Guest.Traced

/-!
# Loading a module

What `ModuleGuest.prepare` can find wrong before any entry point is called, and what a load calls.
-/

namespace SceneBridge.ModuleGuest

variable {exports names : List String} {path basePath : String}

/-! ## Entry points -/

structure FirstMissing (exports names : List String) (name : String) : Prop where
  split : ∃ front rest, names = front ++ name :: rest ∧
    ∀ earlier ∈ front, (exportedName? exports earlier).isSome = true
  missing : exportedName? exports name = none

def lookUp (exports : List String) (path name : String) : Except BridgeError String :=
  match exportedName? exports name with
  | some found => .ok found
  | none => .error (.symbolNotFound path name)

theorem lookUp_cases (exports : List String) (path name : String) :
    (∃ found, exportedName? exports name = some found ∧ lookUp exports path name = .ok found) ∨
      exportedName? exports name = none ∧
        lookUp exports path name = .error (.symbolNotFound path name) := by
  rw [lookUp]
  cases exportedName? exports name with
  | some found => exact .inl ⟨found, rfl, rfl⟩
  | none => exact .inr ⟨rfl, rfl⟩

theorem mapM_lookUp_cases (exports : List String) (path : String) (names : List String) :
    (∃ found, names.map (exportedName? exports) = found.map some ∧
        names.mapM (lookUp exports path) = .ok found) ∨
      ∃ name, FirstMissing exports names name ∧
        names.mapM (lookUp exports path) = .error (.symbolNotFound path name) := by
  induction names with
  | nil => exact .inl ⟨[], rfl, rfl⟩
  | cons name rest ih =>
    rw [List.mapM_cons]
    rcases lookUp_cases exports path name with ⟨found, hexport, hfound⟩ | ⟨hmissing, herr⟩
    · rw [hfound]
      rcases ih with ⟨others, hexports, hothers⟩ | ⟨missing, hfirst, herr⟩
      · rw [hothers]
        refine .inl ⟨found :: others, ?_, rfl⟩
        rw [List.map_cons, hexport, hexports, List.map_cons]
      · rw [herr]
        obtain ⟨⟨front, after, rfl, hfront⟩, hmissing⟩ := hfirst
        refine .inr ⟨missing, ⟨⟨name :: front, after, rfl, ?_⟩, hmissing⟩, rfl⟩
        exact List.forall_mem_cons.mpr ⟨by rw [hexport]; rfl, hfront⟩
    · rw [herr]
      exact .inr ⟨name, ⟨⟨[], rest, rfl, by simp⟩, hmissing⟩, rfl⟩

theorem toList_findSymbols (exports : List String) (path : String) (s : SymbolNames) :
    SymbolNames.toList <$> findSymbols exports path s = s.toList.mapM (lookUp exports path) := by
  simp only [SymbolNames.toList, List.mapM_cons, List.mapM_nil, bind_assoc, pure_bind]
  simp only [findSymbols, map_bind, map_pure]
  rfl

theorem nulPosition?_eq_none_iff {text : String} :
    nulPosition? text = none ↔ '\x00' ∉ text.toList := by
  have hnone : nulPosition? text = none ↔
      (text.toList.takeWhile (· ≠ '\x00')).length = text.toList.length := by
    rw [String.length_toList]
    unfold nulPosition?
    dsimp only
    split
    · exact iff_of_true rfl ‹_›
    · exact iff_of_false (by simp) ‹_›
  have hwhole : (text.toList.takeWhile (· ≠ '\x00')).length = text.toList.length ↔
      text.toList.takeWhile (· ≠ '\x00') = text.toList :=
    ⟨(List.takeWhile_prefix _).eq_of_length, congrArg List.length⟩
  rw [hnone, hwhole, List.takeWhile_eq_self_iff]
  constructor
  · intro h hnul
    simpa using h '\x00' hnul
  · rintro hnul c hc
    have hne : c ≠ '\x00' := by
      rintro rfl
      exact hnul hc
    simpa using hne

/-- The ways in which `prepare` ends, in the order in which things are checked. -/
inductive Prepared (loader : ModuleLoader) (path basePath : String) (symbols : SymbolNames) :
    Except BridgeError SymbolNames → Prop
  | unopened {text : String} (hopen : loader path = .error text) :
    Prepared loader path basePath symbols (.error (.loadFailed path text))
  | incomplete {exports : List String} {name : String} (hopen : loader path = .ok exports)
      (hmissing : FirstMissing exports symbols.toList name) :
    Prepared loader path basePath symbols (.error (.symbolNotFound path name))
  | unusable {exports : List String} {found : SymbolNames} {position : Nat}
      (hopen : loader path = .ok exports)
      (hfound : symbols.toList.map (exportedName? exports) = found.toList.map some)
      (hnul : '\x00' ∈ basePath.toList) (hposition : nulPosition? basePath = some position) :
    Prepared loader path basePath symbols (.error (.invalidConfig (.rule
      s!"base_path: nul byte found in provided data at position: {position}")))
  | ready {exports : List String} {found : SymbolNames} (hopen : loader path = .ok exports)
      (hfound : symbols.toList.map (exportedName? exports) = found.toList.map some)
      (hnul : '\x00' ∉ basePath.toList) :
    Prepared loader path basePath symbols (.ok found)

theorem findSymbols_cases (exports : List String) (path : String) (s : SymbolNames) :
    (∃ found, s.toList.map (exportedName? exports) = found.toList.map some ∧
        findSymbols exports path s = .ok found) ∨
      ∃ name, FirstMissing exports s.toList name ∧
        findSymbols exports path s = .error (.symbolNotFound path name) := by
  have hlist := toList_findSymbols exports path s
  rcases mapM_lookUp_cases exports path s.toList with ⟨names, hnames, hok⟩ | ⟨name, hfirst, herr⟩
  · rw [hok] at hlist
    cases hfind : findSymbols exports path s with
    | error err => simp [hfind] at hlist
    | ok found =>
      rw [hfind] at hlist
      obtain rfl : found.toList = names := Except.ok.inj hlist
      exact .inl ⟨found, hnames, rfl⟩
  · rw [herr] at hlist
    cases hfind : findSymbols exports path s with
    | error err =>
      rw [hfind] at hlist
      obtain rfl := Except.error.inj hlist
      exact .inr ⟨name, hfirst, rfl⟩
    | ok found => simp [hfind] at hlist

theorem prepared (loader : ModuleLoader) (path basePath : String) (symbols : SymbolNames) :
    Prepared loader path basePath symbols (prepare loader path basePath symbols) := by
  unfold prepare
  cases hopen : loader path with
  | error text => exact .unopened hopen
  | ok exports =>
    rcases findSymbols_cases exports path symbols with ⟨found, hfound, hok⟩ | ⟨name, hfirst, herr⟩
    · simp only [pure_bind, hok]
      cases hnul : nulPosition? basePath with
      | none => exact .ready hopen hfound (nulPosition?_eq_none_iff.mp hnul)
      | some position =>
        refine .unusable hopen hfound ?_ hnul
        by_contra hnone
        simp [nulPosition?_eq_none_iff.mpr hnone] at hnul
    · simp only [pure_bind, herr]
      exact .incomplete hopen hfirst

/-! ## What a load calls -/

variable {μ ρ σ : Type} [GuestModule μ ρ σ] {loader : ModuleLoader} {symbols found : SymbolNames}

/-- Whether a module has a context to go on with once it is constructed. -/
def hasContext (found : SymbolNames) (p : ModuleProcess μ) : Bool :=
  (GuestModule.load found.load (GuestModule.construct found.construct p.module).module).answer

def asked (found : SymbolNames) (p : ModuleProcess μ) : ModuleProcess μ :=
  let constructed := (p.absorb (GuestModule.construct found.construct p.module)).value.2
  (constructed.absorb (GuestModule.load found.load constructed.module)).value.2

def initialised (found : SymbolNames) (path basePath : String) (p : ModuleProcess μ) :
    ModuleGuest μ :=
  let asked := asked found p
  let process := (asked.absorb (GuestModule.init found.init basePath asked.module)).value.2
  { process with symbols := found, path }

theorem load_of_unprepared {err : BridgeError}
    (h : prepare loader path basePath symbols = .error err) (p : ModuleProcess μ) :
    (load loader path basePath symbols p).value = .error (err, p) := by
  rw [load, h]
  rfl

theorem load_of_prepared (h : prepare loader path basePath symbols = .ok found)
    (p : ModuleProcess μ) :
    (load loader path basePath symbols p).value =
      if hasContext found p then .ok (initialised found path basePath p)
      else .error (.transportFault
        ("'" ++ path ++ "' returned no context from " ++ symbols.load), asked found p) := by
  rw [load, h]
  change (ite ((!hasContext found p) = true) _ _ : Logged _).value = _
  cases hasContext found p with
  | false => rfl
  | true => rfl

/-! Watching a module changes nothing. -/

variable (found) (path basePath) (q : ModuleProcess (Traced μ))

theorem hasContext_erase : hasContext found q = hasContext found q.erase := rfl

theorem hasContext_watched (p : ModuleProcess μ) :
    hasContext found p.watched = hasContext found p :=
  rfl

theorem erase_load (loader : ModuleLoader) (path basePath : String) (symbols : SymbolNames)
    (q : ModuleProcess (Traced μ)) :
    (load loader path basePath symbols q.erase).value =
      match (load loader path basePath symbols q).value with
      | .error (err, left) => .error (err, left.erase)
      | .ok g => .ok g.erase := by
  cases hprepare : prepare loader path basePath symbols with
  | error err => rw [load_of_unprepared hprepare, load_of_unprepared hprepare]
  | ok found =>
    rw [load_of_prepared hprepare, load_of_prepared hprepare, hasContext_erase]
    cases hasContext found q.erase with
    | false => rfl
    | true => rfl

theorem calls_asked : (asked found q).module.calls = q.module.calls ++ [.construct, .load] := by
  change q.module.calls ++ [.construct] ++ [.load] = _
  simp

theorem calls_initialised : (initialised found path basePath q).calls =
    q.module.calls ++ [.construct, .load, .init] := by
  change (asked found q).module.calls ++ [.init] = _
  simp [calls_asked]

end SceneBridge.ModuleGuest
