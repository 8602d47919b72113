import Mathlib.Data.Finset.Card
import SceneBridge.Proofs.Playback.Effect

/-!
# The accounts of a playback

Edits and despawns are recorded in any order and with any handles, dead and made-up ones included.
`CommandBuffer.commands_recordAll_split` says what is played before a command, wherever it stands in
the recording, so `Command.meets` is the progress that it meets. What a single command can do
(`Command.play_of_dead`, `Command.skipped_play_of_alive`, `Command.total_play`) adds up to
`CommandBuffer.accounts_of_recording`.
-/

namespace SceneBridge

variable {κ : Type} [ProjectKind κ]

open CommandBuffer (Progress)

def PlaybackReport.total (r : PlaybackReport) : Nat :=
  r.instantiated.length + r.updated + r.despawned + r.skipped

theorem EditOutcome.mem_made_iff {outcomes : List EditOutcome} {e : Entity} :
    e ∈ outcomes.filterMap made? ↔ made e ∈ outcomes := by
  refine List.mem_filterMap.trans ⟨?_, fun h => ⟨_, h, rfl⟩⟩
  rintro ⟨o, ho, he⟩
  cases o with
  | made i => rwa [← Option.some.inj he]
  | written => simp at he
  | skipped => simp at he

/-! ## Single commands -/

namespace Command

def edit? : Command → Option Edit
  | edit x => some x
  | despawn _ => none

def despawn? : Command → Option Entity
  | edit _ => none
  | despawn e => some e

/-- The template of an instance, or the entity that is written to or removed. -/
def target : Command → Entity
  | edit (.instantiate template _) => template
  | edit (.setWorldMatrix e _) => e
  | despawn e => e

def play (p : Progress κ) : Command → Progress κ
  | edit x => (CommandBuffer.applyEdit p x).value
  | despawn e => (CommandBuffer.applyDespawn p e).value

def Skips (p : Progress κ) (c : Command) : Prop := p.2.skipped < (c.play p).2.skipped

def Makes (p : Progress κ) (c : Command) (i : Entity) : Prop :=
  (c.play p).2.instantiated = p.2.instantiated ++ [i]

/-- A command for a dead target changes nothing but its count. -/
theorem play_of_dead {p : Progress κ} {c : Command} (h : p.1.isAlive c.target = false) :
    c.play p = (p.1, { p.2 with skipped := p.2.skipped + 1 }) := by
  obtain ⟨w, report⟩ := p
  cases c with
  | edit x =>
    cases x with
    | instantiate template transform =>
      have hdead : w.isAlive template = false := h
      rw [play, CommandBuffer.value_applyEdit_instantiate, World.instantiate_of_dead hdead]
    | setWorldMatrix e matrix =>
      have hdead : w.isAlive e = false := h
      rw [play, CommandBuffer.value_applyEdit_setWorldMatrix, World.insert_dead hdead]
  | despawn e =>
    have hnone : w.despawn? e = none := by
      rw [← Option.isNone_iff_eq_none, ← Option.isSome_eq_false_iff, World.despawn_isSome]
      exact h
    rw [play, CommandBuffer.value_applyDespawn, hnone]

theorem outcome_ne_skipped {w : World κ} {x : Edit} (h : w.isAlive (edit x).target = true) :
    w.outcome x ≠ .skipped := by
  intro hskip
  rcases World.outcome_eq_skipped_iff.mp hskip with
    ⟨template, transform, rfl, hdead⟩ | ⟨e, matrix, rfl, hdead⟩
  · exact Bool.false_ne_true (hdead.symm.trans h)
  · exact Bool.false_ne_true (hdead.symm.trans h)

theorem skipped_play_of_alive {p : Progress κ} {c : Command} (h : p.1.isAlive c.target = true) :
    (c.play p).2.skipped = p.2.skipped := by
  obtain ⟨w, report⟩ := p
  cases c with
  | edit x =>
    rw [play, World.value_applyEdit]
    cases hout : w.outcome x with
    | made i => rfl
    | written => rfl
    | skipped => exact absurd hout (outcome_ne_skipped h)
  | despawn e =>
    obtain ⟨w', hw'⟩ := Option.isSome_iff_exists.mp ((World.despawn_isSome w e).trans h)
    rw [play, CommandBuffer.value_applyDespawn, hw']

theorem skips_iff {p : Progress κ} {c : Command} : c.Skips p ↔ p.1.isAlive c.target = false := by
  unfold Skips
  cases h : p.1.isAlive c.target with
  | false => simp [play_of_dead h]
  | true => simp [skipped_play_of_alive h]

theorem total_play (p : Progress κ) (c : Command) : (c.play p).2.total = p.2.total + 1 := by
  obtain ⟨w, report⟩ := p
  cases c with
  | edit x =>
    rw [play, World.value_applyEdit]
    cases w.outcome x with
    | made i => simp [PlaybackReport.tally, PlaybackReport.total]; omega
    | written => simp [PlaybackReport.tally, PlaybackReport.total]; omega
    | skipped => simp [PlaybackReport.tally, PlaybackReport.total]; omega
  | despawn e =>
    rw [play, CommandBuffer.value_applyDespawn]
    cases w.despawn? e with
    | some w' => simp [PlaybackReport.total]; omega
    | none => simp [PlaybackReport.total]; omega

theorem makes_edit_iff {p : Progress κ} {x : Edit} {i : Entity} :
    (edit x).Makes p i ↔ p.1.outcome x = .made i := by
  obtain ⟨w, report⟩ := p
  rw [Makes, play, World.value_applyEdit]
  cases w.outcome x with
  | made j => simp [PlaybackReport.tally]
  | written => simp [PlaybackReport.tally]
  | skipped => simp [PlaybackReport.tally]

end Command

namespace World

variable {w : World κ}

theorem sound_editAll (hw : w.Sound) (edits : List Edit) : (w.editAll edits).Sound :=
  (via_foldl id via_edited edits w).sound hw

theorem editAll_append (w : World κ) (edits more : List Edit) :
    w.editAll (edits ++ more) = (w.editAll edits).editAll more :=
  List.foldl_append

theorem insert_of_instantiate (hw : w.Sound) (hroom : w.HasRoom) {template i : Entity}
    {w' : World κ} (h : (w.instantiate template).value = .ok (i, w')) (k : Kind κ) (v : k.Value) :
    ∃ w'', w'.insert i k v = .ok w'' := by
  obtain ⟨bundle, -, -, hview⟩ := arena_instantiate hw hroom h
  apply insert_of_alive
  exact isAlive_iff.mpr ⟨_, (hview i).trans (if_pos rfl)⟩

theorem get_edited_override (hw : w.Sound) {template i : Entity} {t : LocalTransform}
    (hroom : w.HasRoom) (h : w.outcome (.instantiate template (some t)) = .made i) :
    (w.edited (.instantiate template (some t))).get i .localTransform = some t := by
  cases hmade : (w.instantiate template).value with
  | error err => simp [outcome, hmade] at h
  | ok made =>
    obtain ⟨j, w'⟩ := made
    obtain rfl : j = i := by simpa [outcome, hmade] using h
    obtain ⟨w'', hinsert⟩ := insert_of_instantiate hw hroom hmade .localTransform t
    have hedited : w.edited (.instantiate template (some t)) = w'' := by
      rw [edited, CommandBuffer.value_applyEdit_instantiate, hmade]
      simp [CommandBuffer.override, hinsert]
    rw [hedited, get_insert hinsert, View.put_self]

theorem nodup_made (hw : w.Sound) {edits : List Edit} (hroom : (w.editAll edits).HasRoom) :
    ((w.outcomes edits).filterMap EditOutcome.made?).Nodup := by
  induction edits generalizing w with
  | nil => exact List.nodup_nil
  | cons x rest ih =>
    have hrest := ih (sound_edited hw x) hroom
    rw [outcomes_cons, List.filterMap_cons]
    cases hout : w.outcome x with
    | written => exact hrest
    | skipped => exact hrest
    | made i =>
      refine List.nodup_cons.mpr ⟨fun hmem => ?_, hrest⟩
      have hlater := isAlive_of_mem_outcomes (sound_edited hw x) hroom
        (EditOutcome.mem_made_iff.mp hmem)
      have hnow := (isAlive_edited_iff hw (HasRoom.of_editAll hroom)).mpr (.inr hout)
      exact Bool.false_ne_true (hlater.symm.trans hnow)

theorem exists_of_mem_outcomes {edits : List Edit} {o : EditOutcome} (h : o ∈ w.outcomes edits) :
    ∃ before x after, edits = before ++ x :: after ∧ (w.editAll before).outcome x = o := by
  induction edits generalizing w with
  | nil => simp [outcomes, meets] at h
  | cons x rest ih =>
    rcases List.mem_cons.mp h with rfl | hlater
    · exact ⟨[], x, rest, rfl, rfl⟩
    · obtain ⟨before, y, after, rfl, hout⟩ := ih hlater
      exact ⟨x :: before, y, after, rfl, hout⟩

end World

/-! ## Recordings -/

namespace Command

def editsOf (recording : List Command) : List Edit := recording.filterMap edit?

def targetsOf (recording : List Command) : List Entity := recording.filterMap despawn?

@[simp] theorem editsOf_cons_edit (x : Edit) (rest : List Command) :
    editsOf (edit x :: rest) = x :: editsOf rest :=
  rfl

@[simp] theorem editsOf_cons_despawn (e : Entity) (rest : List Command) :
    editsOf (despawn e :: rest) = editsOf rest :=
  rfl

@[simp] theorem targetsOf_cons_edit (x : Edit) (rest : List Command) :
    targetsOf (edit x :: rest) = targetsOf rest :=
  rfl

@[simp] theorem targetsOf_cons_despawn (e : Entity) (rest : List Command) :
    targetsOf (despawn e :: rest) = e :: targetsOf rest :=
  rfl

@[simp] theorem editsOf_append (recording more : List Command) :
    editsOf (recording ++ more) = editsOf recording ++ editsOf more :=
  List.filterMap_append

@[simp] theorem targetsOf_append (recording more : List Command) :
    targetsOf (recording ++ more) = targetsOf recording ++ targetsOf more :=
  List.filterMap_append

def playAll (p : Progress κ) (commands : List Command) : Progress κ := commands.foldl play p

theorem playAll_cons (p : Progress κ) (c : Command) (rest : List Command) :
    playAll p (c :: rest) = playAll (c.play p) rest :=
  rfl

theorem mem_targetsOf_iff {recording : List Command} {e : Entity} :
    e ∈ targetsOf recording ↔ despawn e ∈ recording := by
  refine List.mem_filterMap.trans ⟨?_, fun h => ⟨_, h, rfl⟩⟩
  rintro ⟨c, hc, hd⟩
  cases c with
  | edit x => simp [despawn?] at hd
  | despawn f => rwa [← Option.some.inj hd]

theorem length_add_length (recording : List Command) :
    (editsOf recording).length + (targetsOf recording).length = recording.length := by
  induction recording with
  | nil => rfl
  | cons c rest ih =>
    cases c with
    | edit x =>
      rw [editsOf_cons_edit, targetsOf_cons_edit, List.length_cons, List.length_cons]
      omega
    | despawn e =>
      rw [editsOf_cons_despawn, targetsOf_cons_despawn, List.length_cons, List.length_cons]
      omega

theorem total_playAll (p : Progress κ) (commands : List Command) :
    (playAll p commands).2.total = p.2.total + commands.length := by
  induction commands generalizing p with
  | nil => rfl
  | cons c rest ih =>
    calc (playAll (c.play p) rest).2.total
        = (c.play p).2.total + rest.length := ih (c.play p)
      _ = p.2.total + (c :: rest).length := by rw [total_play, List.length_cons]; omega

theorem playAll_edits (w : World κ) (report : PlaybackReport) (edits : List Edit) :
    playAll (w, report) (edits.map edit) =
      (w.editAll edits, (w.outcomes edits).foldl PlaybackReport.tally report) := by
  rw [playAll, List.foldl_map]
  exact CommandBuffer.foldl_applyEdit edits w report

theorem report_playAll_despawns (p : Progress κ) (targets : List Entity) :
    (playAll p (targets.map despawn)).2.instantiated = p.2.instantiated ∧
      (playAll p (targets.map despawn)).2.despawned =
        p.2.despawned + (targets.toFinset.filter fun e => p.1.isAlive e = true).card := by
  induction targets generalizing p with
  | nil => exact ⟨rfl, rfl⟩
  | cons d rest ih =>
    obtain ⟨w, report⟩ := p
    rw [List.map_cons, playAll_cons, List.toFinset_cons]
    cases hd : w.despawn? d with
    | none =>
      have hdead : w.isAlive d = false := by rw [← World.despawn_isSome, hd]; rfl
      rw [play_of_dead (c := despawn d) hdead, Finset.filter_insert, if_neg (by simp [hdead])]
      exact ih (w, { report with skipped := report.skipped + 1 })
    | some w' =>
      have halive : w.isAlive d = true := by rw [← World.despawn_isSome, hd]; rfl
      have hplay : (despawn d).play (w, report) =
          (w', { report with despawned := report.despawned + 1 }) := by
        rw [play, CommandBuffer.value_applyDespawn, hd]
      -- behind this despawn its target is dead, so no repetition of it is counted
      have hset : ((insert d rest.toFinset).filter fun e => w.isAlive e = true) =
          insert d (rest.toFinset.filter fun e => w'.isAlive e = true) := by
        ext e
        by_cases he : e = d
        · simp [he, halive]
        · simp [he, World.isAlive_iff, World.arena_despawn_eq hd]
      have hnot : d ∉ rest.toFinset.filter fun e => w'.isAlive e = true := by
        simp [World.isAlive_iff, World.arena_despawn_eq hd]
      obtain ⟨hmade, hcount⟩ := ih (w', { report with despawned := report.despawned + 1 })
      rw [hplay, hset, Finset.card_insert_of_notMem hnot]
      refine ⟨hmade, hcount.trans ?_⟩
      simp only [Nat.add_assoc, Nat.add_comm 1]

/-- The commands that are played before the one recorded between `before` and `after`. -/
def preceding (before after : List Command) : Command → List Command
  | edit _ => (editsOf before).map edit
  | despawn _ => (editsOf (before ++ after)).map edit ++ (targetsOf before).map despawn

/-- The progress that the command recorded between `before` and `after` meets. -/
def meets (w : World κ) (before after : List Command) (c : Command) : Progress κ :=
  playAll (w, {}) (c.preceding before after)

end Command

namespace CommandBuffer

open Command (editsOf targetsOf playAll)

def recordCommand (b : CommandBuffer) : Command → CommandBuffer
  | .edit x => b.record x
  | .despawn e => b.recordDespawn e

def recordAll (recording : List Command) : CommandBuffer := recording.foldl recordCommand empty

theorem toList_foldl_recordCommand (b : CommandBuffer) (recording : List Command) :
    (recording.foldl recordCommand b).edits.toList = b.edits.toList ++ editsOf recording ∧
      (recording.foldl recordCommand b).despawns.toList =
        b.despawns.toList ++ targetsOf recording := by
  induction recording generalizing b with
  | nil => simp [editsOf, targetsOf]
  | cons c rest ih =>
    obtain ⟨hedits, hdespawns⟩ := ih (b.recordCommand c)
    rw [List.foldl_cons, hedits, hdespawns]
    cases c with
    | edit x => simp [recordCommand, record]
    | despawn e => simp [recordCommand, recordDespawn]

theorem edits_recordAll (recording : List Command) :
    (recordAll recording).edits.toList = editsOf recording :=
  (toList_foldl_recordCommand empty recording).1

theorem despawns_recordAll (recording : List Command) :
    (recordAll recording).despawns.toList = targetsOf recording :=
  (toList_foldl_recordCommand empty recording).2

theorem commands_recordAll (recording : List Command) :
    (recordAll recording).commands =
      (editsOf recording).map .edit ++ (targetsOf recording).map .despawn := by
  rw [commands, edits_recordAll, despawns_recordAll]

theorem length_commands (b : CommandBuffer) : b.commands.length = b.size := by
  simp [commands, size]

theorem value_play_commands (b : CommandBuffer) (w : World κ) :
    (b.play w).value = playAll (w, {}) b.commands := by
  rw [value_play, playAll, commands, List.foldl_append, List.foldl_map, List.foldl_map]
  rfl

theorem size_recordAll (recording : List Command) :
    (recordAll recording).size = recording.length := by
  rw [← length_commands, commands_recordAll, List.length_append, List.length_map, List.length_map]
  exact Command.length_add_length recording

theorem commands_recordAll_split (before after : List Command) (c : Command) :
    ∃ later, (recordAll (before ++ c :: after)).commands =
      c.preceding before after ++ c :: later := by
  rw [commands_recordAll]
  cases c with
  | edit x =>
    refine ⟨(editsOf after).map .edit ++ (targetsOf (before ++ after)).map .despawn, ?_⟩
    simp [Command.preceding]
  | despawn e =>
    refine ⟨(targetsOf after).map .despawn, ?_⟩
    simp [Command.preceding]

end CommandBuffer

/-! ## Accounts -/

namespace Command

open CommandBuffer (recordAll)

variable {w : World κ}

/-- Where the edits of a recording are done and the despawns still to come. -/
def orderedPhase (w : World κ) (recording : List Command) : Progress κ :=
  playAll (w, {}) ((editsOf recording).map edit)

/-- What becomes of the command recorded between `before` and `after` when it meets a progress. -/
structure Turn (w : World κ) (before after : List Command) (c : Command) (p : Progress κ) :
    Prop where
  comes : ∃ later,
    (recordAll (before ++ c :: after)).commands = c.preceding before after ++ c :: later
  skips_iff : c.Skips p ↔ p.1.isAlive c.target = false
  skip : c.Skips p → c.play p = (p.1, { p.2 with skipped := p.2.skipped + 1 })
  heard : ∀ x, c = edit x → w.isAlive c.target = true → ¬ c.Skips p
  repeated : ∀ e, c = despawn e → despawn e ∈ before → c.Skips p
  /-- A transform is written to every instance that is to have one, and stays. -/
  overrides : ∀ template t, c = edit (.instantiate template (some t)) →
    (∀ i w', (p.1.instantiate template).value = .ok (i, w') →
      ∃ w'', w'.insert i .localTransform t = .ok w'') ∧
    ∀ i, c.Makes p i →
      (orderedPhase w (before ++ c :: after)).1.get i .localTransform = some t

theorem meets_edit (w : World κ) (before after : List Command) (x : Edit) :
    (meets w before after (edit x)).1 = w.editAll (editsOf before) := by
  rw [meets, preceding, playAll_edits]

theorem isAlive_meets_despawn {before after : List Command} {e : Entity}
    (h : despawn e ∈ before) : (meets w before after (despawn e)).1.isAlive e = false := by
  rw [World.isAlive_eq_false_iff, meets, preceding, playAll, List.foldl_append,
    List.foldl_map (f := despawn)]
  refine (CommandBuffer.foldl_applyDespawn_arena _ _ e).trans (if_pos ?_)
  exact mem_targetsOf_iff.mpr h

theorem turn (hw : w.Sound) {before after : List Command} {c : Command}
    (hroom : (w.editAll (editsOf (before ++ c :: after))).HasRoom) :
    c.Turn w before after (meets w before after c) where
  comes := CommandBuffer.commands_recordAll_split before after c
  skips_iff := skips_iff
  skip h := play_of_dead (skips_iff.mp h)
  heard := by
    rintro x rfl halive hskips
    have hbefore : (w.editAll (editsOf before)).HasRoom := by
      rw [editsOf_append, World.editAll_append] at hroom
      exact hroom.of_editAll
    rw [skips_iff, meets_edit] at hskips
    have halive := (World.isAlive_editAll_iff hw hbefore).mpr (.inl halive)
    exact Bool.false_ne_true (hskips.symm.trans halive)
  repeated := by
    rintro e rfl hmem
    exact skips_iff.mpr (isAlive_meets_despawn hmem)
  overrides := by
    rintro template t rfl
    rw [editsOf_append, editsOf_cons_edit, World.editAll_append, World.editAll_cons] at hroom
    have hsound := World.sound_editAll hw (editsOf before)
    have hthen := hroom.of_editAll
    rw [meets_edit]
    refine ⟨fun i w' h => ?_, fun i hmakes => ?_⟩
    · exact World.insert_of_instantiate hsound hthen.of_edited h .localTransform t
    · rw [makes_edit_iff, meets_edit] at hmakes
      -- the instance is alive for the edits that follow, and those write matrices only
      have hmade := (World.isAlive_edited_iff hsound hthen).mpr (.inr hmakes)
      rw [orderedPhase, playAll_edits, editsOf_append, editsOf_cons_edit, World.editAll_append,
        World.editAll_cons, World.get_editAll (World.sound_edited hsound _) hroom hmade (by simp)]
      exact World.get_edited_override hsound hthen.of_edited hmakes

theorem exists_of_editsOf_eq {recording : List Command} {x : Edit} {front back : List Edit}
    (h : editsOf recording = front ++ x :: back) :
    ∃ before after, recording = before ++ edit x :: after ∧ editsOf before = front := by
  obtain ⟨before, rest, rfl, rfl, hrest⟩ := List.filterMap_eq_append_iff.mp h
  -- between the last edit in front and this one there are only despawns
  obtain ⟨between, c, after, rfl, hnone, hc, rfl⟩ := List.filterMap_eq_cons_iff.mp hrest
  obtain rfl : c = edit x := by
    cases c with
    | edit y => rw [Option.some.inj hc]
    | despawn e => simp [edit?] at hc
  refine ⟨before ++ between, after, (List.append_assoc _ _ _).symm, ?_⟩
  rw [editsOf_append, editsOf, editsOf, List.filterMap_eq_nil_iff.mpr hnone, List.append_nil]

end Command

namespace CommandBuffer

open Command (editsOf targetsOf orderedPhase playAll)

structure Accounts (w : World κ) (recording : List Command) (w' : World κ) (r : PlaybackReport) :
    Prop where
  played : (w', r) = playAll (w, {}) (recordAll recording).commands
  total : r.instantiated.length + r.updated + r.despawned + r.skipped = (recordAll recording).size
  size : (recordAll recording).size = recording.length
  isAlive_iff : ∀ f, w'.isAlive f = true ↔
    (w.isAlive f = true ∨ f ∈ r.instantiated) ∧ Command.despawn f ∉ recording
  nodup : r.instantiated.Nodup
  fresh : ∀ i ∈ r.instantiated, w.isAlive i = false
  made : ∀ i ∈ r.instantiated, ∃ before c after, recording = before ++ c :: after ∧
    c.Makes (c.meets w before after) i
  despawned : r.despawned = ((targetsOf recording).toFinset.filter fun e =>
    (orderedPhase w recording).1.isAlive e = true).card
  turn : ∀ before c after, recording = before ++ c :: after →
    c.Turn w before after (c.meets w before after)

theorem isAlive_play_iff {b : CommandBuffer} {w : World κ} {f : Entity} :
    (b.play w).value.1.isAlive f = true ↔
      (w.editAll b.edits.toList).isAlive f = true ∧ f ∉ b.despawns.toList := by
  rw [World.isAlive_iff, World.isAlive_iff, arena_play]
  by_cases hf : f ∈ b.despawns.toList
  · simp [hf]
  · simp [hf]

theorem value_play_recordAll (w : World κ) (recording : List Command) :
    ((recordAll recording).play w).value =
      Command.playAll (orderedPhase w recording) ((targetsOf recording).map .despawn) := by
  rw [value_play_commands, commands_recordAll, Command.playAll, List.foldl_append]
  rfl

theorem instantiated_play_recordAll (w : World κ) (recording : List Command) :
    ((recordAll recording).play w).value.2.instantiated =
      (w.outcomes (editsOf recording)).filterMap EditOutcome.made? := by
  rw [value_play_recordAll, (Command.report_playAll_despawns _ _).1, orderedPhase,
    Command.playAll_edits, foldl_tally, List.nil_append]

/-- Whatever is recorded, in whatever order, every command is accounted for. -/
theorem accounts_of_recording {w : World κ} (hw : w.Reachable) {recording : List Command}
    (hroom : ((recordAll recording).play w).value.1.HasRoom) :
    Accounts w recording ((recordAll recording).play w).value.1
      ((recordAll recording).play w).value.2 := by
  have hsound := hw.sound
  have hedits := hasRoom_of_play hroom
  rw [edits_recordAll] at hedits
  refine ⟨value_play_commands _ w, ?_, size_recordAll recording, fun f => ?_, ?_, fun i hi => ?_,
    fun i hi => ?_, ?_, ?_⟩
  · have htotal := Command.total_playAll (w, {}) (recordAll recording).commands
    rw [← value_play_commands, length_commands] at htotal
    exact htotal.trans (Nat.zero_add _)
  · rw [instantiated_play_recordAll, EditOutcome.mem_made_iff, isAlive_play_iff, edits_recordAll,
      despawns_recordAll, World.isAlive_editAll_iff hsound hedits, Command.mem_targetsOf_iff]
  · rw [instantiated_play_recordAll]
    exact World.nodup_made hsound hedits
  · rw [instantiated_play_recordAll, EditOutcome.mem_made_iff] at hi
    exact World.isAlive_of_mem_outcomes hsound hedits hi
  · rw [instantiated_play_recordAll, EditOutcome.mem_made_iff] at hi
    obtain ⟨front, x, back, hsplit, hout⟩ := World.exists_of_mem_outcomes hi
    obtain ⟨before, after, rfl, rfl⟩ := Command.exists_of_editsOf_eq hsplit
    refine ⟨before, .edit x, after, rfl, ?_⟩
    rwa [Command.makes_edit_iff, Command.meets_edit]
  · rw [value_play_recordAll, (Command.report_playAll_despawns _ _).2, orderedPhase,
      Command.playAll_edits, foldl_tally, Nat.zero_add]
  · rintro before c after rfl
    exact Command.turn hsound hedits

def recycledSlotWorld : World Empty :=
  ((recordAll [.despawn ⟨1, 0⟩]).play ([[⟨.prefab, ()⟩], []].foldl
    (fun w components => (w.spawnWith components).2) World.empty)).value.1

def stretched : LocalTransform :=
  { LocalTransform.identity with scale := .replicate 3 ⟨0x40000000⟩ }

/-- The template is despawned twice, for the first time before it is instantiated; the handle of the
instance is guessed; two handles are dead. -/
def crossedCommands : List Command :=
  [.despawn ⟨0, 0⟩, .edit (.instantiate ⟨0, 0⟩ (some stretched)),
    .edit (.setWorldMatrix ⟨1, 1⟩ .identity), .despawn ⟨0, 0⟩, .despawn ⟨9, 9⟩,
    .edit (.instantiate ⟨1, 0⟩ none)]

theorem crossedCommands_accounts :
    let played := ((recordAll crossedCommands).play recycledSlotWorld).value
    recycledSlotWorld.Reachable ∧ played.1.HasRoom ∧ played.2 = ⟨[⟨1, 1⟩], 1, 1, 3⟩ ∧
      (orderedPhase recycledSlotWorld crossedCommands).1.get ⟨1, 1⟩ .localTransform =
        some stretched ∧
      Accounts recycledSlotWorld crossedCommands played.1 played.2 := by
  intro played
  have hreachable : recycledSlotWorld.Reachable :=
    .tail (World.Reachable.spawnAll .refl _) (.play _ _)
  have hroom : played.1.HasRoom := by
    unfold World.HasRoom Arena.HasRoom
    decide +kernel
  have haccounts := accounts_of_recording hreachable hroom
  have hturn := haccounts.turn [.despawn ⟨0, 0⟩] _ _ rfl
  refine ⟨hreachable, hroom, by decide +kernel, ?_, haccounts⟩
  apply (hturn.overrides ⟨0, 0⟩ stretched rfl).2
  exact Command.makes_edit_iff.mpr (by decide +kernel)

end CommandBuffer

end SceneBridge
