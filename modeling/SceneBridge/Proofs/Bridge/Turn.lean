import SceneBridge.Proofs.Bridge.Run
import SceneBridge.Proofs.Inbound.Demands

/-!
# The guest's turn in a tick

`Bridge.demands` are what the guest asks for in the next tick, and nothing if that tick fails
before the guest's turn. Table and world after a tick are what meeting those demands makes of the
table that sharing left and of the world before (`table_tick`, `arena_tick`), whichever way the tick
ends.
-/

namespace SceneBridge.Bridge

open Wire

variable {γ κ U V : Type} [ProjectKind κ] [ComponentSet U] [ComponentSet V]
variable [Guest γ (Raw U) (Raw V)]

/-- What the guest asks for in the next tick. A tick that fails while it shares gives it no turn. -/
def demands (b : Bridge γ κ U V) (w : World κ) : List Demand :=
  match (b.share w).value.1.2 with
  | .ok _ => (Guest.turn (b.share w).value.2.guest).demands
  | .error _ => []

def shared (b : Bridge γ κ U V) (w : World κ) : Correspondence := (b.share w).value.2.table

def moments (b : Bridge γ κ U V) (w : World κ) : List (Correspondence × Demand) :=
  SceneBridge.moments (b.shared w) (b.demands w)

/-- The edits of the next tick, in the order of their playback. -/
def edits (b : Bridge γ κ U V) (w : World κ) : List Edit :=
  stagedEdits b.registry (b.shared w) (b.demands w)

def despawns (b : Bridge γ κ U V) (w : World κ) : List Entity :=
  stagedDespawns (b.shared w) (b.demands w)

theorem demands_of_fault {b : Bridge γ κ U V} {w : World κ} {err : BridgeError}
    (h : (b.share w).value.1.2 = .error err) : b.demands w = [] := by
  rw [demands, h]

theorem demands_of_shared {b : Bridge γ κ U V} {w : World κ} {report : OutboundReport}
    (h : (b.share w).value.1.2 = .ok report) :
    b.demands w = (Guest.turn (b.share w).value.2.guest).demands := by
  rw [demands, h]

/-- What the turn of the next tick has taken in by its end, if the guest has one. -/
def inbound (b : Bridge γ κ U V) (w : World κ) : Inbound :=
  ((Guest.turn (b.share w).value.2.guest).emissions.foldlM (Inbound.take b.registry)
    { table := b.shared w }).value

theorem met_inbound {b : Bridge γ κ U V} {w : World κ} {report : OutboundReport}
    (h : (b.share w).value.1.2 = .ok report) :
    Inbound.Met b.registry { table := b.shared w } (b.inbound w) (b.demands w) := by
  rw [demands_of_shared h]
  exact Inbound.met_turn _ _

theorem edits_inbound {b : Bridge γ κ U V} {w : World κ} {report : OutboundReport}
    (h : (b.share w).value.1.2 = .ok report) :
    (b.inbound w).commands.edits.toList = b.edits w :=
  (met_inbound h).edits

theorem despawns_inbound {b : Bridge γ κ U V} {w : World κ} {report : OutboundReport}
    (h : (b.share w).value.1.2 = .ok report) :
    (b.inbound w).commands.despawns.toList = b.despawns w :=
  (met_inbound h).despawns

theorem turn_of_shared {b : Bridge γ κ U V} {w : World κ} {report : OutboundReport}
    (h : (b.share w).value.1.2 = .ok report) :
    (b.tick w).value.2.1.table = (b.inbound w).table ∧
      (b.tick w).value.2.2 = ((b.inbound w).commands.play w).value.1 := by
  rw [tick_of_shared h, value_guestTurn]
  exact ⟨rfl, rfl⟩

variable (b : Bridge γ κ U V) (w : World κ)

theorem table_tick : (b.tick w).value.2.1.table = tableAfter (b.shared w) (b.demands w) := by
  cases hshare : (b.share w).value.1.2 with
  | error err =>
    rw [tick_of_fault hshare, demands_of_fault hshare]
    rfl
  | ok report => rw [(turn_of_shared hshare).1, (met_inbound hshare).table]

theorem arena_tick (f : Entity) :
    (b.tick w).value.2.2.arena.get? f =
      if f ∈ b.despawns w then none else (w.editAll (b.edits w)).arena.get? f := by
  cases hshare : (b.share w).value.1.2 with
  | error err =>
    rw [tick_of_fault hshare, despawns, edits, demands_of_fault hshare]
    rfl
  | ok report =>
    rw [(turn_of_shared hshare).2, CommandBuffer.arena_play, edits_inbound hshare,
      despawns_inbound hshare]

theorem hasRoom_of_tick {b : Bridge γ κ U V} {w : World κ}
    (h : (b.tick w).value.2.2.HasRoom) : (w.editAll (b.edits w)).HasRoom := by
  cases hshare : (b.share w).value.1.2 with
  | error err =>
    rw [tick_of_fault hshare] at h
    rw [edits, demands_of_fault hshare]
    exact h
  | ok report =>
    rw [(turn_of_shared hshare).2] at h
    rw [← edits_inbound hshare]
    exact CommandBuffer.hasRoom_of_play h

/-! ## In order -/

variable {b w}

theorem Sound.consistent_shared (h : b.Sound w) : (b.shared w).Consistent :=
  h.settled_share.consistent

theorem Sound.isAlive_of_shared (h : b.Sound w) {e : Entity}
    (he : (b.shared w).containsHost e = true) : w.isAlive e = true := by
  obtain ⟨guest, hguest⟩ := Correspondence.containsHost_iff.mp he
  exact h.settled_share.alive e guest hguest

theorem Sound.shrunk_tick (h : b.Sound w) :
    (b.shared w).Shrunk (b.tick w).value.2.1.table (b.despawns w) := by
  rw [table_tick]
  exact shrunk_tableAfter h.consistent_shared (b.demands w)

theorem Sound.isAlive_of_write (h : b.Sound w) {e : Entity} {matrix : Matrix}
    (hwrite : .setWorldMatrix e matrix ∈ b.edits w) : w.isAlive e = true :=
  h.isAlive_of_shared (containsHost_of_write h.consistent_shared hwrite)

/-! ## A busy tick -/

open Outbound (slotEntity)

def stockedWorld : World Empty :=
  [[⟨.prefab, ()⟩], [⟨.prefab, ()⟩],
    [⟨.templateFamily, { familyId := 7, templates := [slotEntity 0, slotEntity 1] }⟩],
    [⟨.shareRequest, ()⟩], [⟨.shareRequest, ()⟩], [⟨.shareRequest, ()⟩]].foldl
      (fun w components => (w.spawnWith components).2) .empty

/-- The host has despawned the second template and the last shared entity, and added one. -/
def thinnedWorld : World Empty :=
  let despawns := (CommandBuffer.empty.recordDespawn (slotEntity 1)).recordDespawn (slotEntity 5)
  ((despawns.play stockedWorld).value.1.spawnWith [⟨.shareRequest, ()⟩]).2

/-- In its second turn the guest creates from either template and from one that it makes up, updates
an id with and without a matrix and one that it makes up, and destroys an id twice. -/
def busyGuest : ScriptedGuest Empty Empty :=
  let matrix := InbuiltComponent.toRaw (.transform Matrix.identity)
  { turns := [[],
      [.batch (.create (.items
          [⟨⟨7, 0⟩, .items []⟩, ⟨⟨7, 1⟩, .items [matrix]⟩, ⟨⟨7, 9⟩, .null 0⟩])),
        .batch (.update (.items
          [⟨⟨0⟩, .items [matrix]⟩, ⟨⟨0⟩, .null 3⟩, ⟨⟨9⟩, .items [matrix]⟩])),
        .batch (.destroy (.items [⟨1⟩, ⟨1⟩]))]] }

def idleBridge : Bridge (ScriptedGuest Empty Empty) Empty Empty Empty := .new busyGuest 8 0

def busyBridge : Bridge (ScriptedGuest Empty Empty) Empty Empty Empty :=
  ((idleBridge.start stockedWorld).value.2.tick stockedWorld).value.2.1

theorem reachable_busyBridge : busyBridge.Reachable :=
  .tick (.start (.new ..) stockedWorld) (World.Reachable.spawnAll .refl _)

theorem reachable_thinnedWorld : thinnedWorld.Reachable :=
  .tail (.tail (World.Reachable.spawnAll .refl _) (.play _ stockedWorld)) (.spawn _ _)

end SceneBridge.Bridge
