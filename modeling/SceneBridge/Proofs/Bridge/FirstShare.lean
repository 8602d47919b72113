import SceneBridge.Proofs.Bridge.Requests
import SceneBridge.Proofs.SceneDescription.Spawned

/-!
# The first tick on a scene

Which entities of a description reach the guest in the first tick can be read off the description:
those that are `Rooted` in it, whose chain of parent names ends at an entity without a parent and
asks to be shared all along. All others that ask to be shared wait (`first_tick_shares_scene`).
-/

namespace SceneBridge

open Wire

def EntityDescription.Asks (d : EntityDescription) : Prop := d.shared = true ∧ d.prefab = false

instance (d : EntityDescription) : Decidable d.Asks := inferInstanceAs (Decidable (_ ∧ _))

/-- The chain of parent names ends at an entity without a parent, and all entities on it ask to be
shared. -/
inductive EntityDescription.Rooted (ds : List EntityDescription) : EntityDescription → Prop
  | root {d : EntityDescription} (described : d ∈ ds) (asks : d.Asks) (orphan : d.parent = none) :
    Rooted ds d
  | child {d parent : EntityDescription} (described : d ∈ ds) (asks : d.Asks)
      (named : d.parent = some parent.name) (rooted : Rooted ds parent) : Rooted ds d

theorem EntityDescription.Rooted.described {ds : List EntityDescription} {d : EntityDescription}
    (h : d.Rooted ds) : d ∈ ds := by
  cases h with
  | root described _ _ => exact described
  | child described _ _ _ => exact described

namespace SceneDescription.Spawned

variable {κ : Type} [ProjectKind κ] {d : SceneDescription} {named : NamedEntities}
variable {entities : List (EntityDescription × Entity)} {holders : List (TemplateFamily × Entity)}
variable {w : World κ} {t : Correspondence} {e : Entity}

theorem get_parent (h : Spawned d .empty named entities holders w)
    {p : EntityDescription × Entity} (hp : p ∈ entities) :
    w.get p.2 .parent = p.1.parent.bind fun name => named.lookup name :=
  h.holds p hp .parent

theorem get_parent_eq_some_iff (h : Spawned d .empty named entities holders w)
    {p q : EntityDescription × Entity} (hp : p ∈ entities) (hq : q ∈ entities) :
    w.get p.2 .parent = some q.2 ↔ p.1.parent = some q.1.name := by
  rw [h.get_parent hp, Option.bind_eq_some_iff]
  constructor
  · rintro ⟨name, hname, hlookup⟩
    rw [hname, h.name_eq hlookup (h.lookup_name hq)]
  · intro hname
    exact ⟨q.1.name, hname, h.lookup_name hq⟩

theorem get_parent_eq_none_iff (h : Spawned d .empty named entities holders w)
    {p : EntityDescription × Entity} (hp : p ∈ entities) :
    w.get p.2 .parent = none ↔ p.1.parent = none := by
  rw [h.get_parent hp]
  cases hparent : p.1.parent with
  | none => simp
  | some name =>
    obtain ⟨parent, hknown⟩ := h.known p.1 (h.mem_described hp) name hparent
    simp [hknown]

theorem mem_of_has_shareRequest (h : Spawned d .empty named entities holders w)
    (hshare : w.has e .shareRequest = true) : ∃ p ∈ entities, p.2 = e := by
  by_cases hentity : e ∈ entities.map Prod.snd
  · exact List.mem_map.mp hentity
  · exfalso
    by_cases hholder : e ∈ holders.map Prod.snd
    · obtain ⟨p, hp, rfl⟩ := List.mem_map.mp hholder
      have hnone : w.get p.2 .shareRequest = none := World.get_of_arena (h.held p hp) _
      simp [World.has, hnone] at hshare
    · have hkept := h.kept e hentity hholder
      have hnone : w.get e .shareRequest = none := by
        rw [World.get, hkept]
        exact World.get_empty e .shareRequest
      simp [World.has, hnone] at hshare

theorem isCandidate_iff (h : Spawned d .empty named entities holders w)
    (hnone : ∀ f, t.containsHost f = false) :
    Outbound.isCandidate w t e = true ↔ ∃ p ∈ entities, p.2 = e ∧ p.1.Asks := by
  have hshare : ∀ p ∈ entities, w.has p.2 .shareRequest = p.1.shared := by
    intro p hp
    rw [World.has, h.holds p hp, EntityDescription.holds]
    cases p.1.shared <;> rfl
  have hprefab : ∀ p ∈ entities, w.has p.2 .prefab = p.1.prefab := by
    intro p hp
    rw [World.has, h.holds p hp, EntityDescription.holds]
    cases p.1.prefab <;> rfl
  rw [Outbound.isCandidate_iff]
  constructor
  · rintro ⟨⟨-, hasks, htemplate⟩, -⟩
    obtain ⟨p, hp, rfl⟩ := h.mem_of_has_shareRequest hasks
    exact ⟨p, hp, rfl, (hshare p hp).symm.trans hasks, (hprefab p hp).symm.trans htemplate⟩
  · rintro ⟨p, hp, rfl, hasks, htemplate⟩
    exact ⟨⟨h.alive p hp, (hshare p hp).trans hasks, (hprefab p hp).trans htemplate⟩, hnone p.2⟩

theorem resolvable_of_rooted (h : Spawned d .empty named entities holders w)
    (hnone : ∀ f, t.containsHost f = false) {x : EntityDescription}
    (hrooted : x.Rooted d.entities) (hx : (x, e) ∈ entities) : Outbound.Resolvable w t e := by
  induction hrooted generalizing e with
  | @root x _ asks orphan =>
    have hcandidate := (h.isCandidate_iff hnone).mpr ⟨(x, e), hx, rfl, asks⟩
    exact .root hcandidate ((h.get_parent_eq_none_iff hx).mpr orphan)
  | @child x parent _ asks hname rooted ih =>
    have hcandidate := (h.isCandidate_iff hnone).mpr ⟨(x, e), hx, rfl, asks⟩
    obtain ⟨f, hf⟩ := h.exists_entity rooted.described
    exact .chained hcandidate ((h.get_parent_eq_some_iff hx hf).mpr hname) (ih hf)

theorem resolvable_iff (h : Spawned d .empty named entities holders w)
    (hnone : ∀ f, t.containsHost f = false) :
    Outbound.Resolvable w t e ↔ ∃ p ∈ entities, p.2 = e ∧ p.1.Rooted d.entities := by
  constructor
  · intro he
    induction he with
    | root candidate orphan =>
      obtain ⟨p, hp, rfl, hasks⟩ := (h.isCandidate_iff hnone).mp candidate
      have horphan := (h.get_parent_eq_none_iff hp).mp orphan
      exact ⟨p, hp, rfl, .root (h.mem_described hp) hasks horphan⟩
    | shared _ _ known =>
      rw [hnone] at known
      simp at known
    | chained candidate child _ ih =>
      obtain ⟨p, hp, rfl, hasks⟩ := (h.isCandidate_iff hnone).mp candidate
      obtain ⟨q, hq, rfl, hrooted⟩ := ih
      have hname := (h.get_parent_eq_some_iff hp hq).mp child
      exact ⟨p, hp, rfl, .child (h.mem_described hp) hasks hname hrooted⟩
  · rintro ⟨p, hp, rfl, hrooted⟩
    exact h.resolvable_of_rooted hnone hrooted hp

theorem candidate_and_not_resolvable_iff (h : Spawned d .empty named entities holders w)
    (hnone : ∀ f, t.containsHost f = false) :
    Outbound.isCandidate w t e = true ∧ ¬ Outbound.Resolvable w t e ↔
      ∃ p ∈ entities, p.2 = e ∧ (p.1.Asks ∧ ¬ p.1.Rooted d.entities) := by
  rw [h.isCandidate_iff hnone, h.resolvable_iff hnone]
  constructor
  · rintro ⟨⟨p, hp, he, hasks⟩, hnot⟩
    exact ⟨p, hp, he, hasks, fun hrooted => hnot ⟨p, hp, he, hrooted⟩⟩
  · rintro ⟨p, hp, rfl, hasks, hnot⟩
    refine ⟨⟨p, hp, rfl, hasks⟩, ?_⟩
    rintro ⟨q, hq, heq, hrooted⟩
    obtain rfl := List.inj_on_of_nodup_map h.entities_nodup hq hp heq
    exact hnot hrooted

end SceneDescription.Spawned

namespace Bridge

variable {γ κ U V : Type} [ProjectKind κ]

structure Untouched (b : Bridge γ κ U V) : Prop where
  table : b.table = .empty
  pending : b.outbound.pending = []

theorem untouched_new (guest : γ) (warnPasses warnAfter : Nat) (ingestion : Ingestion κ U V) :
    (Bridge.new guest warnPasses warnAfter ingestion).Untouched :=
  ⟨rfl, rfl⟩

theorem Untouched.sound {b : Bridge γ κ U V} (h : b.Untouched) {w : World κ} (hw : w.Sound) :
    b.Sound w := by
  refine ⟨hw, ?_, ?_⟩
  · rw [h.table]
    exact Correspondence.consistent_empty
  · rw [h.pending]
    exact List.nodup_nil

theorem Untouched.guest?_link {b : Bridge γ κ U V} (h : b.Untouched) (w : World κ) (e : Entity) :
    (b.link w).table.guest? e = none := by
  rw [Bridge.guest?_link, h.table, Correspondence.guest?_empty, ite_self]

variable [ComponentSet U] [ComponentSet V] [Guest γ (Raw U) (Raw V)]

theorem Untouched.start {b : Bridge γ κ U V} (h : b.Untouched) (w : World κ) :
    (b.start w).value.2.Untouched := by
  obtain ⟨htable, houtbound⟩ := b.start_keeps w
  exact ⟨htable.trans h.table, houtbound ▸ h.pending⟩

/-- A request is for a rooted entity. Its record of the parent, under tag 0, holds the answer to a
request before it, which was for the parent; there is none without a parent. -/
def FollowsParent (d : SceneDescription) (named : NamedEntities)
    (before : List (Outbound.Exchange γ (Raw U) (Raw V)))
    (x : Outbound.Exchange γ (Raw U) (Raw V)) : Prop :=
  ∃ (y : EntityDescription) (s : Snapshot InbuiltComponent), y.Rooted d.entities ∧
    named.lookup y.name = some x.request.host ∧
    decode x.request.components = { snapshot := s } ∧
    (y.parent = none → s.get? 0 = none) ∧
    ∀ name, y.parent = some name → ∃ z ∈ before, named.lookup name = some z.request.host ∧
      s.get? 0 = some (.parent z.answer)

/-- What a tick makes of a scene: what reaches the guest, in which order, and what waits. -/
structure SharesScene (d : SceneDescription) (named : NamedEntities) (b : Bridge γ κ U V)
    (w : World κ) (report : TickReport) : Prop where
  /-- Each description has an entity of its own, behind its name. -/
  names : named.map Prod.fst = d.entities.map EntityDescription.name
  distinct : (named.map Prod.snd).Nodup
  spawned : ∀ e, e ∈ report.outbound.spawned.map Prod.fst ↔
    ∃ x : EntityDescription, x.Rooted d.entities ∧ named.lookup x.name = some e
  once : (report.outbound.spawned.map Prod.fst).Nodup
  /-- The pairs of the report are the requests of the tick with the guest's answers. -/
  acknowledged : report.outbound.spawned = (b.exchanges w).map Outbound.Exchange.pair
  heard : ∀ notes : γ → List (SpawnRequest (Raw U) (Raw V)),
    (∀ guest request, notes (Guest.spawn guest request).value.2 = notes guest ++ [request]) →
      notes (b.share w).value.2.guest =
        notes b.guest ++ (b.exchanges w).map Outbound.Exchange.request
  parents_first : ∀ before x after, b.exchanges w = before ++ x :: after →
    FollowsParent d named before x
  pending : ∀ e, e ∈ (b.tick w).value.2.1.outbound.pending.map Waiting.entity ↔
    ∃ x ∈ d.entities, x.Asks ∧ ¬ x.Rooted d.entities ∧ named.lookup x.name = some e
  pending_once : ((b.tick w).value.2.1.outbound.pending.map Waiting.entity).Nodup
  pending_count : report.outbound.pending = (b.tick w).value.2.1.outbound.pending.length

variable {b : Bridge γ κ U V} {d : SceneDescription} {named : NamedEntities} {w : World κ}
variable {entities : List (EntityDescription × Entity)} {holders : List (TemplateFamily × Entity)}

open SceneDescription (Spawned)

theorem parent_before_child (h : Spawned d .empty named entities holders w) (hw : w.Sound)
    (hb : b.Untouched) {before after : List (Outbound.Exchange γ (Raw U) (Raw V))}
    {x : Outbound.Exchange γ (Raw U) (Raw V)} (hxs : b.exchanges w = before ++ x :: after) :
    FollowsParent d named before x := by
  have hsound := hb.sound hw
  have hcourse := b.course_swept w
  have hx : x ∈ b.exchanges w := hxs ▸ List.mem_append_right before List.mem_cons_self
  have hnone : ∀ f, (b.link w).table.containsHost f = false := fun f =>
    Correspondence.containsHost_eq_false_iff.mpr (hb.guest?_link w f)
  have hresolvable := hcourse.conversation.resolvable (hcourse.asked hsound.ready) x hx
  obtain ⟨p, hp, hhost, hrooted⟩ := (h.resolvable_iff hnone).mp hresolvable
  obtain ⟨s, hdecode, hdescribes⟩ :=
    (hcourse.wellFormed hsound.link hsound.ready x hx).components
  refine ⟨p.1, s, hrooted, hhost ▸ h.lookup_name hp, hdecode, fun horphan => ?_,
    fun name hname => ?_⟩
  · refine hdescribes.orphan ?_
    rw [← hhost]
    exact (h.get_parent_eq_none_iff hp).mpr horphan
  · obtain ⟨parent, hparent⟩ := h.known p.1 (h.mem_described hp) name hname
    have hchild : w.get x.request.host .parent = some parent := by
      rw [← hhost, h.get_parent hp, hname, Option.bind_some, hparent]
    obtain ⟨id, hid, -, hrecord⟩ := hdescribes.child parent hchild
    -- nothing was shared before the tick, so an exchange in front of this one brought the id
    rcases (hcourse.conversation.leading hxs).known_after hid with hold | ⟨z, hz, -, hpair⟩
    · rw [hb.guest?_link] at hold
      simp at hold
    · obtain ⟨rfl, rfl⟩ := Prod.mk.inj hpair
      exact ⟨z, hz, hparent, hrecord⟩

theorem tick_of_completed {sharing : OutboundReport}
    (hshared : (b.share w).value.1.2 = .ok sharing)
    (hturn : (Guest.turn (b.share w).value.2.guest).outcome = .ok ()) :
    (∃ report, (b.tick w).value.1 = .ok report ∧ report.outbound = sharing) ∧
      (b.tick w).value.2.1.outbound.pending = (b.share w).value.2.outbound.pending := by
  have hresult := result_of_shared hshared
  rw [value_guestTurn] at hresult
  simp only [hturn, Except.map] at hresult
  refine ⟨⟨_, hresult, rfl⟩, ?_⟩
  rw [tick_of_shared hshared, value_guestTurn]

theorem spawned_of_shared {sharing : OutboundReport}
    (hshared : (b.share w).value.1.2 = .ok sharing) :
    sharing.spawned = (b.exchanges w).map Outbound.Exchange.pair := by
  have clean := clean_of_shared hshared
  have hcourse := b.course_swept w
  obtain ⟨report, pending, hvalue, hspawned, -, -⟩ := Outbound.resolve_of_clean clean
  obtain rfl : sharing = report := by
    rw [value_share, hvalue] at hshared
    exact (Except.ok.inj hshared).symm
  have hall : (b.exchanges w).filter Outbound.Exchange.taken = b.exchanges w :=
    List.filter_eq_self.mpr (hcourse.all_taken clean)
  rw [← hall, ← hcourse.spawned]
  exact hspawned

/-- The first tick on a scene asks for the entities rooted in it, each after its parent, and lets
all others wait that ask to be shared. -/
theorem first_tick_shares_scene (hspawn : (d.spawnInto .empty).value = (.ok named, w))
    (hroom : w.HasRoom) (hb : b.Untouched)
    (hanswers : ∀ x ∈ b.exchanges w, x.acknowledged = true)
    (hturn : (Guest.turn (b.share w).value.2.guest).outcome = .ok ()) :
    ∃ report, (b.tick w).value.1 = .ok report ∧ SharesScene d named b w report := by
  obtain ⟨entities, holders, h⟩ := SceneDescription.exists_spawned World.sound_empty hspawn hroom
  have hsound := hb.sound h.sound
  have hnone : ∀ f, (b.link w).table.containsHost f = false := fun f =>
    Correspondence.containsHost_eq_false_iff.mpr (hb.guest?_link w f)
  obtain ⟨sharing, hresolve, hshares⟩ :=
    Outbound.resolve_shares_resolvable hsound.link hsound.pending_nodup hanswers
  have hshared : (b.share w).value.1.2 = .ok sharing := by
    rw [value_share]
    exact hresolve
  obtain ⟨⟨report, hreport, rfl⟩, hpending⟩ := tick_of_completed hshared hturn
  rw [value_share] at hpending
  have hspawned : ∀ e, e ∈ report.outbound.spawned.map Prod.fst ↔
      ∃ x : EntityDescription, x.Rooted d.entities ∧ named.lookup x.name = some e := by
    intro e
    rw [hshares.spawned, h.resolvable_iff hnone, h.exists_mem_iff]
    exact exists_congr fun x => and_iff_right_of_imp fun hx => hx.1.described
  have hwaiting : ∀ e, e ∈ (b.tick w).value.2.1.outbound.pending.map Waiting.entity ↔
      ∃ x ∈ d.entities, x.Asks ∧ ¬ x.Rooted d.entities ∧ named.lookup x.name = some e := by
    intro e
    rw [hpending, hshares.waiting, h.candidate_and_not_resolvable_iff hnone,
      h.exists_mem_iff (P := fun x => x.Asks ∧ ¬ x.Rooted d.entities)]
    simp only [and_assoc]
  refine ⟨report, hreport, h.map_fst_named, ?_, hspawned, hshares.spawned_nodup,
    spawned_of_shared hshared, ?_, ?_, hwaiting, ?_, ?_⟩
  · rw [h.map_snd_named]
    exact h.entities_nodup
  · exact fun notes hnotes => (b.conversation_share w).heard hnotes
  · exact fun before x after hxs => parent_before_child h h.sound hb hxs
  · rw [hpending]
    exact hshares.waiting_nodup
  · rw [hpending]
    exact hshares.waiting_length

/-! ## A street -/

/-- A lamp in front of its pole, two links of a chain that hang on each other, a template with its
child, and a sign that is not shared with an arrow on it. -/
def streetScene : SceneDescription where
  entities :=
    [{ name := "lamp", parent := some "pole", shared := true },
      { name := "pole", shared := true },
      { name := "link", parent := some "hook", shared := true },
      { name := "hook", parent := some "link", shared := true },
      { name := "mould", shared := true, prefab := true },
      { name := "cast", parent := some "mould", shared := true },
      { name := "sign" },
      { name := "arrow", parent := some "sign", shared := true }]
  families := [{ familyId := 1, templates := ["mould"] }]

def streetNames : NamedEntities :=
  ["lamp", "pole", "link", "hook", "mould", "cast", "sign", "arrow"].zip
    ([0, 1, 2, 3, 4, 5, 6, 7].map Outbound.slotEntity)

def streetWorld : World Empty := (streetScene.spawnInto .empty).value.2

def streetBridge : Bridge (ScriptedGuest Empty Empty) Empty Empty Empty :=
  ((Bridge.new { nextId := 30 } 8 0).start streetWorld).value.2

theorem street_shared :
    (streetScene.spawnInto .empty).value = (.ok streetNames, streetWorld) ∧
      ((streetBridge.exchanges streetWorld).map Outbound.Exchange.pair =
        [(Outbound.slotEntity 1, ⟨30⟩), (Outbound.slotEntity 0, ⟨31⟩)]) ∧
      ((streetBridge.tick streetWorld).value.2.1.outbound.pending.map Waiting.entity =
        [2, 3, 5, 7].map Outbound.slotEntity) ∧
      ∃ report, (streetBridge.tick streetWorld).value.1 = .ok report ∧
        SharesScene streetScene streetNames streetBridge streetWorld report := by
  have hspawn : (streetScene.spawnInto .empty).value = (.ok streetNames, streetWorld) :=
    Prod.ext (by rfl) rfl
  have hroom : streetWorld.HasRoom := by
    unfold World.HasRoom Arena.HasRoom
    decide +kernel
  exact ⟨hspawn, by decide +kernel, by decide +kernel,
    first_tick_shares_scene hspawn hroom ((untouched_new ..).start streetWorld) (by decide +kernel)
      (by rfl)⟩

end Bridge

end SceneBridge
