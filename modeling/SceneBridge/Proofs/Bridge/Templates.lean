import SceneBridge.Proofs.Bridge.Run
import SceneBridge.Proofs.Bridge.Start

/-!
# Templates that both sides agree on

A start that succeeds leaves a registry that nothing changes any more: later starts are silent, and
neither a tick nor the host reaches it. So the references in a guest's creates are resolved, ever
after, by the handles that its register calls carried (`start_fixes_templates`), whatever has become
of the holders by then.
-/

namespace SceneBridge

open Wire TemplateRegistry

def TemplateRegistry.Announcement.handles (a : Announcement) : List SignedHandle :=
  a.templates.map Entity.toSigned

namespace Bridge

variable {γ κ U V : Type} [ProjectKind κ] [ComponentSet U] [ComponentSet V]
variable [Guest γ (Raw U) (Raw V)] {b b' : Bridge γ κ U V} {w w' : World κ}

/-! ## The rest of a run -/

inductive Later (b : Bridge γ κ U V) (w : World κ) : Bridge γ κ U V → World κ → Prop
  | here : Later b w b w
  | start {b' : Bridge γ κ U V} {w' : World κ} (h : Later b w b' w') :
    Later b w (b'.start w').value.2 w'
  | tick {b' : Bridge γ κ U V} {w' : World κ} (h : Later b w b' w') :
    Later b w (b'.tick w').value.2.1 (b'.tick w').value.2.2
  | edit {b' : Bridge γ κ U V} {w' w'' : World κ} (h : Later b w b' w') (hedit : HostEdit w' w'') :
    Later b w b' w''
  | swap {b' : Bridge γ κ U V} {w' : World κ} (h : Later b w b' w') (guest : γ) :
    Later b w (b'.withGuest guest) w'

theorem registry_share (b : Bridge γ κ U V) (w : World κ) :
    (b.share w).value.2.registry = b.registry := by
  rw [value_share]

theorem registry_tick (b : Bridge γ κ U V) (w : World κ) :
    (b.tick w).value.2.1.registry = b.registry := by
  have hshare := b.registry_share w
  cases hshared : (b.share w).value.1.2 with
  | error err =>
    rw [tick_of_fault hshared]
    exact hshare
  | ok report =>
    rw [tick_of_shared hshared, value_guestTurn]
    exact hshare

theorem Later.registry (h : Later b w b' w') (hpushed : b.registry.pushed = true) :
    b'.registry = b.registry := by
  induction h with
  | here => rfl
  | start _ ih =>
    rw [start_of_pushed (ih ▸ hpushed)]
    exact ih
  | @tick b' w' _ ih =>
    have hkept := b'.registry_tick w'
    rw [hkept]
    exact ih
  | edit _ _ ih => exact ih
  | swap _ _ ih => exact ih

/-! ## The start that succeeds -/

theorem start_of_ok (hfresh : b.registry.pushed = false) (hok : (b.start w).value.1 = .ok ()) :
    (b.announce w).announced = (collect w).value.families.toList.map taken ∧
      (b.start w).value.2.registry = { (collect w).value with pushed := true } := by
  have hcollected := pushed_collect w
  have hannounce := announce_of_unpushed hfresh w
  have hstart := start_of_unpushed hfresh w
  rcases push_cases hcollected b.guest with ⟨hcompleted, hnext⟩ | ⟨hinterrupted, hnext⟩
  · constructor
    · rw [hannounce]
      exact hcompleted.announced
    · rw [hstart]
      exact hnext
  · -- an interrupted push ends in an error
    obtain ⟨err, herr⟩ := hinterrupted.result
    rw [← hannounce, announce, hok] at herr
    simp at herr

theorem guest_start (hfresh : b.registry.pushed = false) :
    (b.start w).value.2.guest =
      (send b.guest (collect w).value.families.toList).value.2 := by
  rw [start_of_unpushed hfresh, pushAll_of_unpushed (pushed_collect w)]

theorem resolve_eq_some_iff (r : TemplateRegistry) (t : TemplateRef) (e : Entity) :
    r.resolve t = some e ↔
      ∃ a ∈ r.families.toList.map taken, a.familyId = t.familyId ∧ 0 ≤ t.index ∧
        ∃ handle, a.handles[t.index.toInt.toNat]? = some handle ∧ handle.toEntity = e := by
  have hhandles : ∀ templates : List Entity,
      (∃ handle, (templates.map Entity.toSigned)[t.index.toInt.toNat]? = some handle ∧
        handle.toEntity = e) ↔ templates[t.index.toInt.toNat]? = some e := by
    intro templates
    rw [List.getElem?_map]
    cases htemplate : templates[t.index.toInt.toNat]? with
    | none => simp
    | some template => simp
  have hfamily : ∀ templates, (t.familyId, templates) ∈ r.families.toList ↔
      r.family? t.familyId = some templates := by
    intro templates
    exact Std.TreeMap.mem_toList_iff_getElem?_eq_some
  unfold resolve
  constructor
  · intro h
    split at h
    · simp at h
    · next hindex =>
      obtain ⟨templates, htemplates, hentry⟩ := Option.bind_eq_some_iff.mp h
      have hmem := (hfamily templates).mpr htemplates
      refine ⟨taken (t.familyId, templates), List.mem_map_of_mem hmem, rfl, ?_, ?_⟩
      · exact Int32.not_lt.mp hindex
      · exact (hhandles templates).mpr hentry
  · rintro ⟨a, ha, hid, hindex, hentry⟩
    obtain ⟨⟨id, templates⟩, hmem, rfl⟩ := List.mem_map.mp ha
    obtain rfl : id = t.familyId := hid
    have hfound := (hfamily templates).mp hmem
    have hplace := (hhandles templates).mp hentry
    rw [if_neg (Int32.not_lt.mpr hindex), hfound]
    exact hplace

/-! ## What is fixed -/

/-- What a start on a world tells the guest, and what a reference in a create stands for ever
after. -/
structure FixesTemplates (b : Bridge γ κ U V) (w : World κ) (announced : List Announcement) :
    Prop where
  /-- A guest that notes down its register calls has noted down these and no others. -/
  heard : ∀ {α : Type} (notes : γ → List α) (entry : Int32 → List SignedHandle → α),
    (∀ guest familyId templates, notes (Guest.register guest familyId templates).value.2 =
      notes guest ++ [entry familyId (templates.map Entity.toSigned)]) →
    notes (b.start w).value.2.guest =
      notes b.guest ++ announced.map fun a => entry a.familyId a.handles
  taken : ∀ a ∈ announced, a.taken = true
  ascending : (announced.map Announcement.familyId).Pairwise fun id id' => id < id'
  declared : ∀ id, id ∈ announced.map Announcement.familyId ↔
    ∃ holder f, w.isAlive holder = true ∧ w.get holder .templateFamily = some f ∧ f.familyId = id
  /-- Of several holders of an id the one in the lowest slot counts. -/
  lowest : ∀ a ∈ announced, ∃ holder f, w.get holder .templateFamily = some f ∧
    f.familyId = a.familyId ∧ f.templates = a.templates ∧
    ∀ other g, w.get other .templateFamily = some g → g.familyId = a.familyId →
      other = holder ∨ holder.index < other.index
  resolved : ∀ {b' : Bridge γ κ U V} {w' : World κ}, Later (b.start w).value.2 w b' w' →
    ∀ (t : TemplateRef) (e : Entity), b'.registry.resolve t = some e ↔
      ∃ a ∈ announced, a.familyId = t.familyId ∧ 0 ≤ t.index ∧
        ∃ handle, a.handles[t.index.toInt.toNat]? = some handle ∧ handle.toEntity = e
  /-- No later start tells the guest anything. -/
  silent : ∀ {b' : Bridge γ κ U V} {w' : World κ}, Later (b.start w).value.2 w b' w' →
    (b'.start w').value = (.ok (), b') ∧ (b'.announce w').announced = []

/-- The first start that succeeds fixes what references stand for: what the guest was told of and
what its creates are resolved against agree for the rest of the run. -/
theorem start_fixes_templates (hfresh : b.registry.pushed = false)
    (hok : (b.start w).value.1 = .ok ()) : b.FixesTemplates w (b.announce w).announced := by
  obtain ⟨hannounced, hregistry⟩ := start_of_ok hfresh hok
  have hlater : ∀ {b' : Bridge γ κ U V} {w' : World κ}, Later (b.start w).value.2 w b' w' →
      b'.registry = { (collect w).value with pushed := true } := by
    intro b' w' h
    rw [h.registry (by rw [hregistry]), hregistry]
  have hfamilies : (b.announce w).announced.map Announcement.familyId =
      (collect w).value.families.toList.map Prod.fst := by
    rw [hannounced, List.map_map]
    rfl
  refine ⟨fun notes entry hnotes => ?_, ?_, ?_, fun id => ?_, ?_, fun h t e => ?_, fun h => ?_⟩
  · have hsilent : (announcements b.guest (collect w).value.families.toList) =
        (b.announce w).announced := by
      rw [announce, if_neg (by simp [hfresh])]
    have hheard := heard_send notes (fun id templates => entry id (templates.map Entity.toSigned))
      hnotes b.guest (collect w).value.families.toList
    rw [guest_start hfresh, hheard, hsilent]
    rfl
  · rw [hannounced]
    intro a ha
    obtain ⟨family, -, rfl⟩ := List.mem_map.mp ha
    rfl
  · rw [hfamilies]
    exact ascending_families _
  · rw [hfamilies, mem_families_collect]
    constructor
    · rintro ⟨f, hf, hid⟩
      obtain ⟨holder, hholder⟩ := World.mem_declared.mp hf
      exact ⟨holder, f, World.isAlive_of_get hholder, hholder, hid⟩
    · rintro ⟨holder, f, -, hholder, hid⟩
      exact ⟨f, World.mem_declared.mpr ⟨holder, hholder⟩, hid⟩
  · rw [hannounced]
    intro a ha
    obtain ⟨⟨id, templates⟩, hmem, rfl⟩ := List.mem_map.mp ha
    have hfamily : (collect w).value.family? id = some templates :=
      Std.TreeMap.mem_toList_iff_getElem?_eq_some.mp hmem
    rw [family?_collect] at hfamily
    obtain ⟨f, hfind, htemplates⟩ := Option.map_eq_some_iff.mp hfamily
    obtain ⟨holder, hholder, hid, hlowest⟩ := World.holder_of_find? hfind
    exact ⟨holder, f, hholder, hid, htemplates, hlowest⟩
  · rw [hlater h, hannounced]
    exact resolve_eq_some_iff _ t e
  · have hpushed := congrArg TemplateRegistry.pushed (hlater h)
    exact ⟨start_of_pushed hpushed _, if_pos hpushed⟩

/-! ## Holders that come and go -/

open Outbound (slotEntity)

def familyWorld : World Empty :=
  [[⟨.prefab, ()⟩], [⟨.prefab, ()⟩],
    [⟨.templateFamily, { familyId := 9, templates := [slotEntity 1, slotEntity 0] }⟩],
    [⟨.templateFamily, { familyId := -2, templates := [] }⟩],
    [⟨.templateFamily, { familyId := 9, templates := [] }⟩]].foldl
      (fun w components => (w.spawnWith components).2) .empty

def familyBridge : Bridge (ScriptedGuest Empty Empty) Empty Empty Empty := .new {} 8 0

/-- After a start the host despawns the holder that counted and one of its templates; a start on
what is left of the world changes nothing. -/
theorem templates_outlive_holders :
    familyBridge.registry.pushed = false ∧
      (familyBridge.start familyWorld).value.1 = .ok () ∧
      (familyBridge.announce familyWorld).announced =
        [⟨-2, [], true⟩, ⟨9, [slotEntity 1, slotEntity 0], true⟩] ∧
      familyBridge.FixesTemplates familyWorld (familyBridge.announce familyWorld).announced ∧
      let b := (familyBridge.start familyWorld).value.2
      let w := (((CommandBuffer.empty.recordDespawn (slotEntity 2)).recordDespawn
        (slotEntity 1)).play familyWorld).value.1
      (((b.tick w).value.2.1.start w).value.2.registry.resolve ⟨9, 0⟩ = some (slotEntity 1) ∧
        (b.tick w).value.2.1.registry.resolve ⟨9, -1⟩ = none) := by
  refine ⟨rfl, by decide, by decide +kernel, start_fixes_templates rfl (by decide), ?_⟩
  decide +kernel

end Bridge

end SceneBridge
