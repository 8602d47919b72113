import Mathlib.Data.List.Nodup
import SceneBridge.Proofs.Outbound.Step

/-!
# What a step warns of

A step writes two kinds of warnings of its own: that it took many sweeps, and `waitLine`s. All other
warnings in its log are the guest's, written while it answered (`guestLines`). A `waitLine` tells
its entity and its age (`waitLine_inj`), so the log shows whose wait was reported, and how often.
-/

namespace SceneBridge.Outbound

open Wire

/-! ## The line of a wait -/

/-- The line that reports the wait of an entity. -/
def waitLine (e : Entity) (age : Nat) : LogLine where
  level := .warn
  target := logTarget
  text := s!"{e.describe} has waited {age} ticks for its parent to be mirrored"

theorem isDigit_of_mem_decimal {n : Nat} : ∀ c ∈ Nat.toDigits 10 n, c.isDigit = true :=
  fun _ hc => Nat.isDigit_of_mem_toDigits (by decide) (by decide) hc

theorem decimal_append_inj {m n : Nat} {c d : Char} {xs ys : List Char}
    (hc : c.isDigit = false) (hd : d.isDigit = false)
    (h : Nat.toDigits 10 m ++ c :: xs = Nat.toDigits 10 n ++ d :: ys) :
    m = n ∧ c :: xs = d :: ys := by
  have htake := congrArg (List.takeWhile Char.isDigit) h
  rw [List.takeWhile_append_of_pos isDigit_of_mem_decimal,
    List.takeWhile_append_of_pos isDigit_of_mem_decimal,
    List.takeWhile_cons_of_neg (by simp [hc]), List.takeWhile_cons_of_neg (by simp [hd]),
    List.append_nil, List.append_nil] at htake
  rw [htake] at h
  refine ⟨?_, List.append_cancel_left h⟩
  rw [← Nat.ofDigitChars_ten_toDigits (n := m), htake, Nat.ofDigitChars_ten_toDigits]

theorem toList_toString (n : UInt32) : (toString n).toList = Nat.toDigits 10 n.toNat := by
  rw [show toString n = toString n.toNat from rfl, Nat.toString_eq_ofList_toDigits,
    String.toList_ofList]

theorem toList_describe {e : Entity} (h : e.isPlaceholder = false) :
    e.describe.toList = "Entity(".toList ++ (Nat.toDigits 10 e.index.toNat ++
      'v' :: (Nat.toDigits 10 e.generation.toNat ++ [')'])) := by
  rw [Entity.describe, h, if_neg Bool.false_ne_true]
  show ("Entity(" ++ (toString e.index ++ "v" ++ toString e.generation) ++ ")").toList = _
  simp [toList_toString]

theorem toList_waitLine (e : Entity) (age : Nat) :
    (waitLine e age).text.toList = e.describe.toList ++
      (" has waited ".toList ++ (Nat.toDigits 10 age ++
        " ticks for its parent to be mirrored".toList)) := by
  have hage : (toString age).toList = Nat.toDigits 10 age := by
    rw [Nat.toString_eq_ofList_toDigits, String.toList_ofList]
  show (e.describe ++ " has waited " ++ toString age ++
    " ticks for its parent to be mirrored").toList = _
  simp only [String.toList_append, List.append_assoc, hage]

/-- The line of a wait tells which entity has waited, and for how long. -/
theorem waitLine_inj {e e' : Entity} {age age' : Nat} (proper : e.isPlaceholder = false)
    (h : waitLine e age = waitLine e' age') : e = e' ∧ age = age' := by
  have htext := congrArg (fun line => line.text.toList) h
  simp only [toList_waitLine, toList_describe proper, List.append_assoc] at htext
  cases hplace : e'.isPlaceholder with
  | true =>
    -- one text has a numeral where the other one has a letter
    have hletter : e'.describe.toList = "Entity(".toList ++ 'p' :: "laceholder)".toList := by
      rw [Entity.describe, hplace, if_pos rfl]
      simp
    rw [hletter, List.append_assoc] at htext
    have hhead := List.append_cancel_left htext
    cases hdigits : Nat.toDigits 10 e.index.toNat with
    | nil => exact absurd (hdigits ▸ Nat.length_toDigits_pos) (by simp)
    | cons c cs =>
      have hdigit := isDigit_of_mem_decimal c (hdigits ▸ List.mem_cons_self)
      rw [hdigits] at hhead
      rw [(List.cons.inj hhead).1] at hdigit
      simp at hdigit
  | false =>
    rw [toList_describe hplace] at htext
    simp only [List.append_assoc, List.cons_append, List.nil_append] at htext
    obtain ⟨hindex, htext⟩ := decimal_append_inj rfl rfl (List.append_cancel_left htext)
    obtain ⟨hgeneration, htext⟩ := decimal_append_inj rfl rfl (List.cons.inj htext).2
    have htext := List.append_cancel_left (List.cons.inj htext).2
    exact ⟨congrArg₂ Entity.mk (UInt32.toNat_inj.mp hindex) (UInt32.toNat_inj.mp hgeneration),
      (decimal_append_inj rfl rfl htext).1⟩

/-! ## Warnings -/

def warnings (lines : List LogLine) : List LogLine := lines.filter fun line => line.level == .warn

@[simp] theorem warnings_append (xs ys : List LogLine) :
    warnings (xs ++ ys) = warnings xs ++ warnings ys :=
  List.filter_append ..

theorem count_warnings (e : Entity) (age : Nat) (lines : List LogLine) :
    (warnings lines).count (waitLine e age) = lines.count (waitLine e age) :=
  List.count_filter rfl

variable {κ : Type} [ProjectKind κ]
variable {U V γ : Type} [ComponentSet U] [ComponentSet V] [Guest γ (Raw U) (Raw V)]

def Exchange.lines {ρ σ : Type} [Guest γ ρ σ] (x : Exchange γ ρ σ) : List LogLine :=
  (Guest.spawn x.guest x.request).log

def guestLines (xs : List (Exchange γ (Raw U) (Raw V))) : List LogLine := xs.flatMap Exchange.lines

variable {w : World κ} {ingestion : Ingestion κ U V} {link : Link γ}

theorem warnings_attempt_of_ok {e : Entity} {r : SpawnRequest (Raw U) (Raw V)}
    (h : request w ingestion link.table e = .ok r) :
    warnings (attempt w ingestion link e).log = warnings (Exchange.lines ⟨link, r⟩) := by
  rw [attempt, h]
  simp only [Logged.log_bind, warnings_append, Exchange.lines]
  -- what follows the guest's lines is one of trace level, or nothing
  refine (congrArg _ ?_).trans (List.append_nil _)
  split
  · rfl
  · split
    · rfl
    · rfl

theorem log_attempt_of_error {e parent : Entity}
    (h : request w ingestion link.table e = .error parent) :
    (attempt w ingestion link e).log = [] := by
  rw [attempt, h]
  rfl

theorem warnings_sweep (w : World κ) (ingestion : Ingestion κ U V) (link : Link γ)
    (queue : List Waiting) :
    warnings (sweep w ingestion link queue).log =
      warnings (guestLines (sweepExchanges w ingestion link queue)) := by
  induction queue generalizing link with
  | nil => rfl
  | cons p rest ih =>
    rw [sweepExchanges, sweep, Logged.log_bind, warnings_append]
    cases hask : request w ingestion link.table p.entity with
    | error parent =>
      rw [log_attempt_of_error hask, value_attempt_of_error hask]
      simp only [Logged.log_bind, warnings_append, ih]
      simp [Logged.write, warnings]
    | ok request =>
      let x : Exchange γ (Raw U) (Raw V) := ⟨link, request⟩
      rw [warnings_attempt_of_ok hask, value_attempt_of_ok hask]
      cases hins : link.table.insert p.entity x.answer with
      | ok table =>
        simp only [x, hins, guestLines, List.flatMap_cons, Logged.log_bind, warnings_append, ih]
        simp [warnings]
      | error err =>
        simp only [x, hins, guestLines, List.flatMap_cons, List.flatMap_nil, warnings_append]
        rfl

theorem warnings_settle (w : World κ) (ingestion : Ingestion κ U V) (fuel : Nat) (link : Link γ)
    (queue : List Waiting) :
    warnings (settle w ingestion fuel link queue).log =
      warnings (guestLines (settleExchanges w ingestion fuel link queue)) := by
  induction fuel generalizing link queue with
  | zero => rfl
  | succ fuel ih =>
    cases queue with
    | nil => rfl
    | cons p rest =>
      simp only [settle, settleExchanges, guestLines, List.flatMap_append, Logged.log_bind,
        warnings_append]
      rw [warnings_sweep]
      split
      · rfl
      · simp only [Logged.log_bind, warnings_append, ih]
        simp [guestLines, warnings]

theorem warnings_queue (o : Outbound) (w : World κ) (table : Correspondence) (tick : Nat) :
    warnings (o.queue w table tick).log = [] := by
  have hretain : ∀ queue, warnings (retainCandidates w table queue).log = [] := by
    intro queue
    induction queue with
    | nil => rfl
    | cons p rest ih =>
      rw [retainCandidates]
      split
      · simpa [warnings] using ih
      · simpa [warnings, Logged.write] using ih
  rw [queue, Logged.log_bind, warnings_append, hretain]
  rfl

/-! ## Reports -/

theorem log_reportWaits (limit tick : Nat) (queue : List Waiting) :
    (reportWaits limit tick queue).log =
      (queue.filter (Waiting.isDue limit tick)).map fun p =>
        waitLine p.entity (tick - p.since) := by
  induction queue with
  | nil => rfl
  | cons p rest ih =>
    rw [reportWaits]
    split
    · next hdue =>
      rw [List.filter_cons_of_pos (show p.isDue limit tick = true from hdue), List.map_cons, ← ih]
      simp only [Logged.log_bind, Logged.log_pure, List.append_nil]
      rfl
    · next hdue =>
      rw [List.filter_cons_of_neg (show ¬ p.isDue limit tick = true from hdue), ← ih]
      simp only [Logged.log_bind, Logged.log_pure, List.append_nil]

theorem count_reportWaits (limit tick : Nat) {queue : List Waiting}
    (nodup : (queue.map Waiting.entity).Nodup)
    (proper : ∀ p ∈ queue, p.entity.isPlaceholder = false) (e : Entity) (age : Nat) :
    (reportWaits limit tick queue).log.count (waitLine e age) =
      if ∃ p ∈ queue, p.entity = e ∧ p.isDue limit tick = true ∧ age = tick - p.since
      then 1 else 0 := by
  rw [log_reportWaits, List.Nodup.count]
  · refine if_congr ?_ rfl rfl
    constructor
    · intro hmem
      obtain ⟨p, hp, hline⟩ := List.mem_map.mp hmem
      obtain ⟨hqueue, hdue⟩ := List.mem_filter.mp hp
      obtain ⟨rfl, rfl⟩ := waitLine_inj (proper p hqueue) hline
      exact ⟨p, hqueue, rfl, hdue, rfl⟩
    · rintro ⟨p, hqueue, rfl, hdue, rfl⟩
      exact List.mem_map.mpr ⟨p, List.mem_filter.mpr ⟨hqueue, hdue⟩, rfl⟩
  · refine List.Nodup.map_on ?_ (nodup.of_map.filter _)
    intro p hp q hq hline
    have hsame := (waitLine_inj (proper p (List.mem_filter.mp hp).1) hline).1
    exact List.inj_on_of_nodup_map nodup (List.mem_filter.mp hp).1 (List.mem_filter.mp hq).1 hsame

/-! ## Whole steps -/

def slowLine (passes limit spawns : Nat) : LogLine where
  level := .warn
  target := logTarget
  text := s!"Resolution took {passes} passes (threshold {limit}) for {spawns} spawns"

theorem slowLine_ne_waitLine (passes limit spawns : Nat) (e : Entity) (age : Nat) :
    slowLine passes limit spawns ≠ waitLine e age := by
  intro h
  have hdescribe : e.describe.toList.head? = some 'E' := by
    cases hplace : e.isPlaceholder with
    | true => simp [Entity.describe, hplace]
    | false => simp [toList_describe hplace]
  have hslow : (slowLine passes limit spawns).text.toList.head? = some 'R' := by
    show ("Resolution took " ++ toString passes ++ " passes (threshold " ++ toString limit ++
      ") for " ++ toString spawns ++ " spawns").toList.head? = some 'R'
    simp
  rw [h, toList_waitLine, List.head?_append, hdescribe] at hslow
  simp at hslow

variable {o : Outbound} {tick : Nat} {e : Entity} {age : Nat}

theorem count_queue (o : Outbound) (w : World κ) (table : Correspondence) (tick : Nat) :
    (o.queue w table tick).log.count (waitLine e age) = 0 := by
  rw [← count_warnings, warnings_queue, List.count_nil]

theorem count_settle (w : World κ) (ingestion : Ingestion κ U V) (fuel : Nat) (link : Link γ)
    (queue : List Waiting) :
    (settle w ingestion fuel link queue).log.count (waitLine e age) =
      (guestLines (settleExchanges w ingestion fuel link queue)).count (waitLine e age) := by
  rw [← count_warnings, warnings_settle, count_warnings]

theorem count_resolve_of_fault {err : BridgeError}
    (h : (o.swept w ingestion link tick).fault = some err) :
    (o.resolve w ingestion link tick).log.count (waitLine e age) =
      (guestLines (o.exchanges w ingestion link tick)).count (waitLine e age) := by
  rw [swept] at h
  simp [resolve, List.count_append, count_queue, count_settle, h, exchanges]

theorem count_resolve_of_clean (h : (o.swept w ingestion link tick).fault = none) :
    (o.resolve w ingestion link tick).log.count (waitLine e age) =
      (guestLines (o.exchanges w ingestion link tick)).count (waitLine e age) +
        (reportWaits o.warnAfter tick
          (o.swept w ingestion link tick).waiting).log.count (waitLine e age) := by
  rw [swept] at h
  simp only [resolve, Logged.log_bind, List.count_append, count_queue, count_settle, h, exchanges,
    swept, Nat.zero_add]
  split
  · have hslow : ∀ passes limit spawns, [slowLine passes limit spawns].count (waitLine e age) = 0 :=
      fun passes limit spawns => List.count_eq_zero.mpr fun hmem =>
        slowLine_ne_waitLine passes limit spawns e age (List.mem_singleton.mp hmem).symm
    simp only [Logged.log_bind, List.count_append, Logged.log_pure, List.count_nil]
    rw [show (Logged.write _ _ _).log = [slowLine _ _ _] from rfl, hslow]
    omega
  · simp

end SceneBridge.Outbound
