import SceneBridge.Proofs.Playback
import SceneBridge.Proofs.SceneDescription.Residue

/-!
# How a spawn ends

A spawn stops at the first fault it comes to: a name that is declared again, or else a parent, or
else a template that is not declared. Then the part of each stage in front of the fault has
succeeded and nothing behind it has begun (`declare_eq_error`, `linkAll_eq_error`,
`holdFamilies_eq_error`), so what is left in the world is known from the stages that succeed.
`outcome_of_spawn` puts the answer and the residue together.
-/

namespace SceneBridge.SceneDescription

variable {κ : Type} [ProjectKind κ] {w w' : World κ} {named : NamedEntities}

/-! ## Faults of a description -/

def names (d : SceneDescription) : List String := d.entities.map EntityDescription.name

def parents (d : SceneDescription) : List String := d.entities.filterMap EntityDescription.parent

def templates (d : SceneDescription) : List String := d.families.flatMap FamilyDescription.templates

/-- The first name, of a parent or else of a template, that no entity has. -/
def undeclared? (d : SceneDescription) : Option String :=
  (d.parents ++ d.templates).find? fun name => name ∉ d.names

/-- The first name that has occurred before. -/
def Repeats (names : List String) (name : String) : Prop :=
  ∃ before after, names = before ++ name :: after ∧ before.Nodup ∧ name ∈ before

theorem Repeats.not_nodup {names : List String} {name : String} (h : Repeats names name) :
    ¬ names.Nodup := by
  rintro hnodup
  obtain ⟨before, after, rfl, -, hmem⟩ := h
  exact (List.nodup_append.mp hnodup).2.2 name hmem name List.mem_cons_self rfl

theorem Repeats.unique {names : List String} {name other : String} (h : Repeats names name)
    (h' : Repeats names other) : name = other := by
  -- in front of a repetition there is none
  have hle : ∀ {before after before' after' : List String} {n n' : String},
      before ++ n :: after = before' ++ n' :: after' → n ∈ before → before'.Nodup →
        before'.length ≤ before.length := by
    intro before after before' after' n n' heq hmem hnodup
    by_contra hlt
    have hleft : before ++ [n] <+: before ++ n :: after := ⟨after, by simp⟩
    have hright : before' <+: before ++ n :: after := heq ▸ List.prefix_append before' _
    have hlength : (before ++ [n]).length ≤ before'.length := by
      rw [List.length_append, List.length_singleton]
      omega
    have hfront := hnodup.sublist (List.prefix_of_prefix_length_le hleft hright hlength).sublist
    exact (List.nodup_append.mp hfront).2.2 n hmem n (List.mem_singleton_self n) rfl
  obtain ⟨before, after, heq, hnodup, hmem⟩ := h
  obtain ⟨before', after', heq', hnodup', hmem'⟩ := h'
  have hsame := heq.symm.trans heq'
  have hlength : before.length = before'.length :=
    Nat.le_antisymm (hle hsame.symm hmem' hnodup) (hle hsame hmem hnodup')
  exact (List.cons.inj (List.append_inj_right hsame hlength)).1

/-- A fault at which a spawn stops, with the entities that are built and those that are linked by
then, and the families that have a holder. -/
inductive Stops (d : SceneDescription) :
    SceneError → List EntityDescription → List EntityDescription → List FamilyDescription → Prop
  | repeated {before after : List EntityDescription} {x : EntityDescription}
      (hsplit : d.entities = before ++ x :: after)
      (hnodup : (before.map EntityDescription.name).Nodup)
      (hname : x.name ∈ before.map EntityDescription.name) :
      Stops d (.duplicateName x.name) before [] []
  | unknownParent {before after : List EntityDescription} {x : EntityDescription} {name : String}
      (hnodup : d.names.Nodup) (hsplit : d.entities = before ++ x :: after)
      (hbefore : ∀ y ∈ before, ∀ name, y.parent = some name → name ∈ d.names)
      (hparent : x.parent = some name) (hname : name ∉ d.names) :
      Stops d (.unknownName name) d.entities before []
  | unknownTemplate {before after : List FamilyDescription} {f : FamilyDescription} {name : String}
      (hnodup : d.names.Nodup) (hparents : ∀ name ∈ d.parents, name ∈ d.names)
      (hsplit : d.families = before ++ f :: after)
      (hbefore : ∀ g ∈ before, ∀ name ∈ g.templates, name ∈ d.names)
      (hname : f.templates.find? (fun name => name ∉ d.names) = some name) :
      Stops d (.unknownName name) d.entities d.entities before

theorem undeclared?_eq_some {d : SceneDescription} (front back : List String) {name : String}
    (hused : d.parents ++ d.templates = front ++ name :: back)
    (hfront : ∀ name ∈ front, name ∈ d.names) (hname : name ∉ d.names) :
    d.undeclared? = some name := by
  refine List.find?_eq_some_iff_append.mpr ⟨by simpa using hname, front, back, hused, ?_⟩
  simpa using hfront

theorem undeclared?_eq_none_iff {d : SceneDescription} :
    d.undeclared? = none ↔ ∀ name ∈ d.parents ++ d.templates, name ∈ d.names := by
  rw [undeclared?, List.find?_eq_none]
  simp only [decide_eq_true_eq, not_not]

theorem Stops.fault {d : SceneDescription} {err : SceneError}
    {built linked : List EntityDescription} {held : List FamilyDescription}
    (h : Stops d err built linked held) :
    (∃ name, err = .duplicateName name ∧ Repeats d.names name) ∨
      ∃ name, err = .unknownName name ∧ d.names.Nodup ∧ d.undeclared? = some name := by
  cases h with
  | @repeated _ after x hsplit hnodup hname =>
    refine .inl ⟨x.name, rfl, built.map EntityDescription.name,
      after.map EntityDescription.name, ?_, hnodup, hname⟩
    rw [names, hsplit, List.map_append, List.map_cons]
  | @unknownParent _ after x name hnodup hsplit hbefore hparent hname =>
    refine .inr ⟨name, rfl, hnodup, ?_⟩
    apply undeclared?_eq_some (linked.filterMap EntityDescription.parent)
      (after.filterMap EntityDescription.parent ++ d.templates) _ _ hname
    · simp [parents, hsplit, hparent]
    · intro name hmem
      obtain ⟨y, hy, hparent⟩ := List.mem_filterMap.mp hmem
      exact hbefore y hy name hparent
  | @unknownTemplate _ after f name hnodup hparents hsplit hbefore hname =>
    obtain ⟨hnot, front, back, htemplates, hfront⟩ := List.find?_eq_some_iff_append.mp hname
    refine .inr ⟨name, rfl, hnodup, ?_⟩
    apply undeclared?_eq_some (d.parents ++ (held.flatMap FamilyDescription.templates ++ front))
      (back ++ after.flatMap FamilyDescription.templates) _ _ (by simpa using hnot)
    · simp [templates, hsplit, htemplates]
    · intro name hmem
      rcases List.mem_append.mp hmem with hmem | hmem
      · exact hparents name hmem
      · rcases List.mem_append.mp hmem with hmem | hmem
        · obtain ⟨g, hg, hmem⟩ := List.mem_flatMap.mp hmem
          exact hbefore g hg name hmem
        · simpa using hfront name hmem

/-! ## The stages, once they fail -/

theorem declare_eq_error {ds : List EntityDescription} {err : SceneError}
    (h : declare w named ds = (.error err, w')) :
    ∃ before x after named', ds = before ++ x :: after ∧
      declare w named before = (.ok named', w') ∧ (∃ e, named'.lookup x.name = some e) ∧
      err = .duplicateName x.name := by
  induction ds generalizing w named with
  | nil => simp [declare] at h
  | cons d ds ih =>
    rw [declare] at h
    cases hlookup : named.lookup d.name with
    | some e =>
      rw [hlookup] at h
      obtain ⟨herr, rfl⟩ := Prod.mk.inj h
      exact ⟨[], d, ds, named, rfl, rfl, ⟨e, hlookup⟩, (Except.error.inj herr).symm⟩
    | none =>
      rw [hlookup] at h
      obtain ⟨before, x, after, named', rfl, hok, hknown, herr⟩ := ih h
      refine ⟨d :: before, x, after, named', rfl, ?_, hknown, herr⟩
      rw [declare, hlookup]
      exact hok

theorem linkAll_eq_error {ds : List EntityDescription} {err : SceneError}
    (h : linkAll w named ds = (.error err, w')) :
    ∃ before x after, ds = before ++ x :: after ∧ linkAll w named before = (.ok (), w') ∧
      link w' named x = .error err := by
  induction ds generalizing w with
  | nil => simp [linkAll] at h
  | cons d ds ih =>
    rw [linkAll] at h
    cases hlink : link w named d with
    | error err' =>
      rw [hlink] at h
      obtain ⟨herr, rfl⟩ := Prod.mk.inj h
      obtain rfl := Except.error.inj herr
      exact ⟨[], d, ds, rfl, rfl, hlink⟩
    | ok w₁ =>
      rw [hlink] at h
      obtain ⟨before, x, after, rfl, hok, herr⟩ := ih h
      refine ⟨d :: before, x, after, rfl, ?_, herr⟩
      rw [linkAll, hlink]
      exact hok

theorem link_eq_error {x : EntityDescription} {e : Entity} {err : SceneError}
    (hname : named.lookup x.name = some e) (halive : w.isAlive e = true)
    (h : link w named x = .error err) :
    ∃ name, x.parent = some name ∧ named.lookup name = none ∧ err = .unknownName name := by
  unfold link at h
  cases hparent : x.parent with
  | none =>
    rw [hparent] at h
    simp [pure, Except.pure] at h
  | some name =>
    simp only [hparent] at h
    cases hlookup : named.lookup name with
    | none =>
      have hunknown : resolve named name = .error (.unknownName name) := by rw [resolve, hlookup]
      rw [hunknown] at h
      exact ⟨name, rfl, hlookup, (Except.error.inj h).symm⟩
    | some parent =>
      obtain ⟨w', hinsert⟩ := World.insert_of_alive halive .parent parent
      rw [resolve_eq_ok_iff.mpr hlookup, resolve_eq_ok_iff.mpr hname] at h
      have hok : Except.ok w' = Except.error err := hinsert.symm.trans h
      simp at hok

theorem holdFamilies_eq_error {fs : List FamilyDescription} {err : SceneError}
    (h : holdFamilies w named fs = (.error err, w')) :
    ∃ before f after, fs = before ++ f :: after ∧ holdFamilies w named before = (.ok (), w') ∧
      f.templates.mapM (resolve named) = .error err := by
  induction fs generalizing w with
  | nil => simp [holdFamilies] at h
  | cons f fs ih =>
    rw [holdFamilies] at h
    cases htemplates : f.templates.mapM (resolve named) with
    | error err' =>
      rw [htemplates] at h
      obtain ⟨herr, rfl⟩ := Prod.mk.inj h
      obtain rfl := Except.error.inj herr
      exact ⟨[], f, fs, rfl, rfl, htemplates⟩
    | ok templates =>
      rw [htemplates] at h
      obtain ⟨before, g, after, rfl, hok, herr⟩ := ih h
      refine ⟨f :: before, g, after, rfl, ?_, herr⟩
      rw [holdFamilies, htemplates]
      exact hok

theorem mapM_resolve_eq_error {used : List String} {err : SceneError}
    (h : used.mapM (resolve named) = .error err) :
    ∃ name, used.find? (fun name => (named.lookup name).isNone) = some name ∧
      err = .unknownName name := by
  induction used with
  | nil => simp [pure, Except.pure] at h
  | cons name used ih =>
    rw [List.mapM_cons] at h
    cases hlookup : named.lookup name with
    | none =>
      have hunknown : resolve named name = .error (.unknownName name) := by rw [resolve, hlookup]
      rw [hunknown] at h
      exact ⟨name, by simp [hlookup], (Except.error.inj h).symm⟩
    | some e =>
      rw [resolve_eq_ok_iff.mpr hlookup] at h
      cases hrest : used.mapM (resolve named) with
      | ok rest =>
        rw [hrest] at h
        simp [bind, Except.bind, pure, Except.pure] at h
      | error err' =>
        rw [hrest] at h
        obtain rfl := Except.error.inj h
        obtain ⟨other, hfind, herr⟩ := ih hrest
        exact ⟨other, by simp [hlookup, hfind], herr⟩

theorem spawnInto_eq_error {d : SceneDescription} {err : SceneError}
    (h : (d.spawnInto w).value = (.error err, w')) :
    declare w [] d.entities = (.error err, w') ∨
      ∃ named w₁, declare w [] d.entities = (.ok named, w₁) ∧
        (linkAll w₁ named d.entities = (.error err, w') ∨
          ∃ w₂, linkAll w₁ named d.entities = (.ok (), w₂) ∧
            holdFamilies w₂ named d.families = (.error err, w')) := by
  unfold spawnInto at h
  rcases hdeclare : declare w [] d.entities with ⟨err' | named, w₁⟩
  · simp only [hdeclare] at h
    exact .inl h
  · simp only [hdeclare] at h
    refine .inr ⟨named, w₁, rfl, ?_⟩
    rcases hlinks : linkAll w₁ named d.entities with ⟨err' | _, w₂⟩
    · simp only [hlinks, Logged.value_pure, Prod.mk.injEq, Except.error.injEq] at h
      obtain ⟨rfl, rfl⟩ := h
      exact .inl rfl
    · simp only [hlinks] at h
      refine .inr ⟨w₂, rfl, ?_⟩
      rcases hhold : holdFamilies w₂ named d.families with ⟨err' | _, w₃⟩
      · simp only [hhold, Logged.value_pure, Prod.mk.injEq, Except.error.injEq] at h
        obtain ⟨rfl, rfl⟩ := h
        rfl
      · simp [hhold] at h

/-! ## What is left of a spawn -/

theorem lookup_nameOf_eq_none_iff {ds : List EntityDescription}
    {entities : List (EntityDescription × Entity)} (hds : entities.map Prod.fst = ds)
    {name : String} :
    (entities.map nameOf).lookup name = none ↔ name ∉ ds.map EntityDescription.name := by
  have hkeys : (entities.map nameOf).map Prod.fst = ds.map EntityDescription.name := by
    rw [← hds, List.map_map, List.map_map]
    rfl
  rw [List.lookup_eq_none_iff, ← hkeys, List.mem_map]
  simp only [bne_iff_ne, not_exists, not_and]
  exact forall₂_congr fun p _ => ne_comm

theorem declared_of_lookup {ds : List EntityDescription}
    {entities : List (EntityDescription × Entity)} (hds : entities.map Prod.fst = ds)
    {name : String} (h : ∃ e, (entities.map nameOf).lookup name = some e) :
    name ∈ ds.map EntityDescription.name := by
  obtain ⟨e, he⟩ := h
  by_contra hnot
  rw [(lookup_nameOf_eq_none_iff hds).mpr hnot] at he
  simp at he

theorem lookup_of_becomes {fs : List FamilyDescription} {families : List TemplateFamily}
    (h : List.Forall₂ (FamilyDescription.Becomes named) fs families) :
    ∀ f ∈ fs, ∀ name ∈ f.templates, ∃ e, named.lookup name = some e := by
  induction h with
  | nil => simp
  | cons hfirst _ ih => exact List.forall_mem_cons.mpr ⟨lookup_of_forall₂_lookup hfirst.2, ih⟩

/-- The spawn stops at a fault, and what it did up to there is left in the world. -/
def StopsShort (d : SceneDescription) (err : SceneError) (w w' : World κ) : Prop :=
  ∃ built linked held entities holders, Stops d err built linked held ∧
    Residue built linked held w entities holders w'

theorem stopsShort_of_declare (hw : w.Sound) {d : SceneDescription} {err : SceneError}
    (h : declare w [] d.entities = (.error err, w')) (hroom : w'.HasRoom) :
    d.StopsShort err w w' := by
  obtain ⟨before, x, after, named, hsplit, hok, hknown, rfl⟩ := declare_eq_error h
  obtain ⟨entities, rfl, hdescribed, hnames, hentities⟩ := declared_of_ok hw hok hroom
  have hstages : Stages before [] [] w entities w' w' [] w' := ⟨hdescribed, hnames,
    List.nil_subset before, .nil, hentities, .nil hentities.sound _, .nil hentities.sound⟩
  refine ⟨before, [], [], entities, [], ?_, hstages.residue⟩
  exact .repeated hsplit hnames (declared_of_lookup hdescribed hknown)

theorem stopsShort_of_linkAll (hw : w.Sound) {d : SceneDescription} {err : SceneError}
    {w₁ : World κ} (hdeclare : declare w [] d.entities = (.ok named, w₁))
    (h : linkAll w₁ named d.entities = (.error err, w')) (hroom : w'.HasRoom) :
    d.StopsShort err w w' := by
  have hlinked := via_linkAll w₁ named d.entities
  rw [h] at hlinked
  obtain ⟨entities, rfl, hdescribed, hnames, hentities⟩ :=
    declared_of_ok hw hdeclare (hroom.of_via hlinked)
  obtain ⟨before, x, after, hsplit, hok, hlink⟩ := linkAll_eq_error h
  have hbefore : (before.map EntityDescription.name).Nodup := by
    rw [hsplit, List.map_append] at hnames
    exact (List.nodup_append.mp hnames).1
  have hparents := linked_linkAll hentities.sound hbefore
    (lookup_injective hdescribed hnames hentities.nodup) hok
  -- the entity whose link fails is alive, so it is the parent that is missing
  have hx : x ∈ entities.map Prod.fst := by
    rw [hdescribed, hsplit]
    exact List.mem_append_right before List.mem_cons_self
  obtain ⟨p, hp, rfl⟩ := List.mem_map.mp hx
  have halive : w'.isAlive p.2 = true :=
    (hparents.alive p.2).trans (World.isAlive_iff.mpr ⟨_, hentities.placed p hp⟩)
  have hname := (lookup_map_nameOf hdescribed hnames).mpr ⟨p, hp, rfl, rfl⟩
  obtain ⟨name, hparent, hnone, rfl⟩ := link_eq_error hname halive hlink
  have hsub : before ⊆ d.entities := hsplit ▸ List.subset_append_left before _
  have hstages : Stages d.entities before [] w entities w₁ w' [] w' :=
    ⟨hdescribed, hnames, hsub, .nil, hentities, hparents, .nil hparents.sound⟩
  refine ⟨d.entities, before, [], entities, [], ?_, hstages.residue⟩
  refine .unknownParent hnames hsplit (fun y hy name hname => ?_) hparent
    ((lookup_nameOf_eq_none_iff hdescribed).mp hnone)
  exact declared_of_lookup hdescribed (hparents.known y hy name hname)

theorem stopsShort_of_holdFamilies (hw : w.Sound) {d : SceneDescription} {err : SceneError}
    {w₁ w₂ : World κ} (hdeclare : declare w [] d.entities = (.ok named, w₁))
    (hlinks : linkAll w₁ named d.entities = (.ok (), w₂))
    (h : holdFamilies w₂ named d.families = (.error err, w')) (hroom : w'.HasRoom) :
    d.StopsShort err w w' := by
  have hlinked := via_linkAll w₁ named d.entities
  have hheld := via_holdFamilies w₂ named d.families
  rw [hlinks] at hlinked
  rw [h] at hheld
  obtain ⟨entities, rfl, hdescribed, hnames, hentities⟩ :=
    declared_of_ok hw hdeclare (hroom.of_via (hlinked.trans hheld))
  have hparents := linked_linkAll hentities.sound hnames
    (lookup_injective hdescribed hnames hentities.nodup) hlinks
  obtain ⟨before, f, after, hsplit, hok, htemplates⟩ := holdFamilies_eq_error h
  obtain ⟨holders, hbecomes, hholders⟩ := held_of_ok hparents.sound hok hroom
  obtain ⟨name, hfind, rfl⟩ := mapM_resolve_eq_error htemplates
  have hundeclared : (fun name => ((entities.map nameOf).lookup name).isNone) =
      fun name => decide (name ∉ d.names) := by
    funext name
    rw [Bool.eq_iff_iff, Option.isNone_iff_eq_none, decide_eq_true_eq]
    exact lookup_nameOf_eq_none_iff hdescribed
  have hstages : Stages d.entities d.entities before w entities w₁ w₂ holders w' :=
    ⟨hdescribed, hnames, List.Subset.refl _, hbecomes, hentities, hparents, hholders⟩
  refine ⟨d.entities, d.entities, before, entities, holders, ?_, hstages.residue⟩
  refine .unknownTemplate hnames (fun name hname => ?_) hsplit (fun g hg name hname => ?_)
    (hundeclared ▸ hfind)
  · obtain ⟨x, hx, hparent⟩ := List.mem_filterMap.mp hname
    exact declared_of_lookup hdescribed (hparents.known x hx name hparent)
  · exact declared_of_lookup hdescribed (lookup_of_becomes hbecomes g hg name hname)

theorem stopsShort_of_error (hw : w.Sound) {d : SceneDescription} {err : SceneError}
    (h : (d.spawnInto w).value = (.error err, w')) (hroom : w'.HasRoom) :
    d.StopsShort err w w' := by
  rcases spawnInto_eq_error h with hdeclare | ⟨named, w₁, hdeclare, hlinks | ⟨w₂, hlinks, hhold⟩⟩
  · exact stopsShort_of_declare hw hdeclare hroom
  · exact stopsShort_of_linkAll hw hdeclare hlinks hroom
  · exact stopsShort_of_holdFamilies hw hdeclare hlinks hhold hroom

theorem Residue.keeps {built linked : List EntityDescription} {families : List FamilyDescription}
    {entities : List (EntityDescription × Entity)} {holders : List (TemplateFamily × Entity)}
    (h : Residue built linked families w entities holders w') {e : Entity}
    (he : w.isAlive e = true) : w'.isAlive e = true ∧ ∀ k, w'.get e k = w.get e k := by
  have hold : e ∉ entities.map Prod.snd ++ holders.map Prod.snd := fun hmem =>
    Bool.false_ne_true ((h.fresh e hmem).symm.trans he)
  rw [List.mem_append, not_or] at hold
  refine ⟨(h.alive_iff e).mpr (.inl he), fun k => ?_⟩
  rw [World.get, World.get, h.kept e hold.1 hold.2]

/-- A description that is accepted has gone through all its stages, and every entity that names a
parent has the entity of that name for it. -/
def SpawnsAll (d : SceneDescription) (named : NamedEntities) (w w' : World κ) : Prop :=
  ∃ entities holders, named = entities.map nameOf ∧
    Residue d.entities d.entities d.families w entities holders w' ∧
    ∀ p ∈ entities, ∀ name, p.1.parent = some name →
      ∃ q ∈ entities, q.1.name = name ∧ w'.get p.2 .parent = some q.2

theorem spawnsAll_of_ok (hw : w.Sound) {d : SceneDescription}
    (h : (d.spawnInto w).value = (.ok named, w')) (hroom : w'.HasRoom) :
    d.names.Nodup ∧ d.undeclared? = none ∧ d.SpawnsAll named w w' := by
  obtain ⟨entities, holders, rfl, hnames, hknown, hresidue⟩ := residue_of_ok hw h hroom
  refine ⟨hnames, undeclared?_eq_none_iff.mpr fun name hname => ?_, entities, holders, rfl,
    hresidue, fun p hp name hname => ?_⟩
  · apply declared_of_lookup hresidue.described
    rcases List.mem_append.mp hname with hname | hname
    · obtain ⟨x, hx, hparent⟩ := List.mem_filterMap.mp hname
      exact hknown x hx name hparent
    · obtain ⟨f, hf, hname⟩ := List.mem_flatMap.mp hname
      exact lookup_of_becomes hresidue.becomes f hf name hname
  · have hx : p.1 ∈ d.entities := hresidue.described ▸ List.mem_map_of_mem hp
    obtain ⟨parent, hlookup⟩ := hknown p.1 hx name hname
    obtain ⟨q, hq, hqname, rfl⟩ := (lookup_map_nameOf hresidue.described hnames).mp hlookup
    refine ⟨q, hq, hqname, ?_⟩
    rw [hresidue.parent p hp hx, EntityDescription.holds, hname, Option.bind_some, hlookup]

/-- How a spawn ends, and what it leaves in the world. -/
structure Outcome (d : SceneDescription) (w : World κ) (answer : Except SceneError NamedEntities)
    (w' : World κ) : Prop where
  duplicateName_iff : ∀ name,
    answer = .error (.duplicateName name) ↔ Repeats d.names name
  unknownName_iff : ∀ name,
    answer = .error (.unknownName name) ↔ d.names.Nodup ∧ d.undeclared? = some name
  ok_iff : (∃ named, answer = .ok named) ↔
    d.names.Nodup ∧ ∀ name ∈ d.parents ++ d.templates, name ∈ d.names
  no_dead_handle : ∀ e, answer ≠ .error (.entityNotFound e) ∧ answer ≠ .error (.templateNotFound e)
  ok : ∀ named, answer = .ok named → d.SpawnsAll named w w'
  error : ∀ err, answer = .error err → d.StopsShort err w w'
  keeps : ∀ e, w.isAlive e = true → w'.isAlive e = true ∧ ∀ k, w'.get e k = w.get e k

theorem outcome_of_error {d : SceneDescription} {err : SceneError} (h : d.StopsShort err w w') :
    d.Outcome w (.error err) w' := by
  have hstops := h
  obtain ⟨built, linked, held, entities, holders, hfault, hresidue⟩ := h
  have herror : ∀ err', (.error err : Except SceneError NamedEntities) = .error err' →
      d.StopsShort err' w w' := fun err' heq => Except.error.inj heq ▸ hstops
  rcases hfault.fault with ⟨name, rfl, hrepeats⟩ | ⟨name, rfl, hnodup, hundeclared⟩
  · have hnot := hrepeats.not_nodup
    refine ⟨fun other => ?_, ?_, ?_, by simp, by simp, herror, fun e he => hresidue.keeps he⟩
    · rw [Except.error.injEq, SceneError.duplicateName.injEq]
      exact ⟨fun heq => heq ▸ hrepeats, hrepeats.unique⟩
    · simp [hnot]
    · simp [hnot]
  · have hnot : ∀ other, ¬ Repeats d.names other := fun other h => h.not_nodup hnodup
    refine ⟨?_, ?_, ?_, by simp, by simp, herror, fun e he => hresidue.keeps he⟩
    · simp [hnot]
    · simp [hnodup, hundeclared]
    · rw [← undeclared?_eq_none_iff]
      simp [hundeclared]

/-- Every spawn ends at the first fault of the description, or with all of it in the world. -/
theorem outcome_of_spawn (hw : w.Reachable) {d : SceneDescription}
    (hroom : (d.spawnInto w).value.2.HasRoom) :
    d.Outcome w (d.spawnInto w).value.1 (d.spawnInto w).value.2 := by
  rcases hspawn : (d.spawnInto w).value with ⟨err | named, w'⟩
  · rw [hspawn] at hroom
    exact outcome_of_error (stopsShort_of_error hw.sound hspawn hroom)
  · rw [hspawn] at hroom
    obtain ⟨hnodup, hundeclared, hall⟩ := spawnsAll_of_ok hw.sound hspawn hroom
    have hnot : ∀ name, ¬ Repeats d.names name := fun name h => h.not_nodup hnodup
    have hkeeps := hall
    obtain ⟨entities, holders, -, hresidue, -⟩ := hkeeps
    refine ⟨?_, ?_, ?_, by simp, fun named' heq => ?_, by simp, fun e he => hresidue.keeps he⟩
    · simp [hnot]
    · simp [hundeclared]
    · rw [← undeclared?_eq_none_iff]
      simp [hnodup, hundeclared]
    · exact Except.ok.inj heq ▸ hall

/-- The ground, and a slot that was vacated. -/
def groundWorld : World Empty :=
  ((CommandBuffer.empty.recordDespawn ⟨1, 0⟩).play
    ([[⟨.name, "ground"⟩], []].foldl (fun w components => (w.spawnWith components).2)
      World.empty)).value.1

/-- An arm on a post that is declared behind it and attached to itself, a sign on a wall that is not
declared, and a lamp on the arm. -/
def straySign : SceneDescription where
  entities := [{ name := "arm", parent := some "post" }, { name := "post", parent := some "post" },
    { name := "sign", parent := some "wall" }, { name := "lamp", parent := some "arm" }]
  families := [{ familyId := 7, templates := ["lamp"] }]

theorem straySign_outcome :
    let spawned := (straySign.spawnInto groundWorld).value
    groundWorld.Reachable ∧ spawned.2.HasRoom ∧ spawned.1 = .error (.unknownName "wall") ∧
      spawned.2.entities = [⟨0, 0⟩, ⟨1, 1⟩, ⟨2, 0⟩, ⟨3, 0⟩, ⟨4, 0⟩] ∧
      spawned.2.query .parent = [⟨1, 1⟩, ⟨2, 0⟩] ∧ spawned.2.query .templateFamily = [] ∧
      straySign.Outcome groundWorld spawned.1 spawned.2 := by
  intro spawned
  have hreachable : groundWorld.Reachable := .tail (World.Reachable.spawnAll .refl _) (.play _ _)
  have hroom : spawned.2.HasRoom := by
    unfold World.HasRoom Arena.HasRoom
    decide +kernel
  have houtcome := outcome_of_spawn hreachable hroom
  have herror := (houtcome.unknownName_iff "wall").mpr ⟨by decide, by decide⟩
  exact ⟨hreachable, hroom, herror, by decide +kernel, by decide +kernel, by decide +kernel,
    houtcome⟩

end SceneBridge.SceneDescription
