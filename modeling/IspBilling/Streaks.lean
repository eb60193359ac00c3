import Mathlib.Data.List.DropRight

/-! # Runs of failures in a log

A log is a list of attempts, the oldest first, each with a start, a finish and a verdict.
`streak log` is the number of failures in a row at the end of the log.  `Pauses` says that after
`limit` failures in a row nothing starts for some time; `pauses_concat_iff` says what one more attempt
has to meet, in terms of the streak that it finds. -/

namespace Streaks

variable {α : Type*} (failed : α → Bool) (start finish : α → ℤ) (limit : ℕ) (pause : ℤ)

/-- The number of failures in a row at the end of the log. -/
def streak (log : List α) : ℕ := (log.rtakeWhile failed).length

/-- After `limit` or more failures in a row, nothing starts before `pause` has passed. -/
def Pauses (log : List α) : Prop :=
  ∀ before run after, log = before ++ run ++ after → limit ≤ run.length → (∀ a ∈ run, failed a) →
    ∀ l ∈ run.getLast?, ∀ a ∈ after, finish l + pause ≤ start a

@[simp] theorem streak_nil : streak failed [] = 0 := rfl

theorem streak_concat (log : List α) (a : α) :
    streak failed (log ++ [a]) = if failed a then streak failed log + 1 else 0 := by
  unfold streak
  rw [List.rtakeWhile_concat]
  split <;> simp

theorem pauses_nil : Pauses failed start finish limit pause [] := by
  intro before run after h _ _ l _ a ha
  have hnil : after = [] := (List.append_eq_nil_iff.mp h.symm).2
  simp [hnil] at ha

variable {failed}

theorem length_le_streak {before run : List α} (h : ∀ a ∈ run, failed a) :
    run.length ≤ streak failed (before ++ run) := by
  induction run using List.reverseRecOn with
  | nil => simp
  | append_singleton run a ih =>
      have ha : failed a = true := h a (by simp)
      have hrun := ih (fun b hb => h b (by simp [hb]))
      rw [← List.append_assoc, streak_concat, if_pos ha]
      simpa using hrun

variable {start finish limit pause}

/-- One more attempt has to wait only if it finds a long enough streak. -/
theorem pauses_concat_iff {log : List α} {a : α} (horder : ∀ b ∈ log, start b ≤ start a) :
    Pauses failed start finish limit pause (log ++ [a]) ↔
      Pauses failed start finish limit pause log ∧
        (limit ≤ streak failed log → 0 < streak failed log →
          ∀ l ∈ log.getLast?, finish l + pause ≤ start a) := by
  constructor
  · intro h
    refine ⟨?_, ?_⟩
    · intro before run after hlog hlen hrun l hl b hb
      exact h before run (after ++ [a]) (by simp [hlog]) hlen hrun l hl b (by simp [hb])
    · intro hlimit hpos l hl
      have hsplit : log = log.rdropWhile failed ++ log.rtakeWhile failed :=
        List.rdropWhile_append_rtakeWhile.symm
      have hne : log.rtakeWhile failed ≠ [] := List.length_pos_iff.mp hpos
      refine h (log.rdropWhile failed) (log.rtakeWhile failed) [a] (by rw [← hsplit]) hlimit
        (fun b hb => List.mem_rtakeWhile_imp hb) l ?_ a (by simp)
      rw [hsplit, List.getLast?_append_of_ne_nil _ hne] at hl
      exact hl
  · rintro ⟨hlog, hlast⟩ before run after heq hlen hrun l hl b hb
    obtain rfl | ⟨after, c, rfl⟩ := List.eq_nil_or_concat after
    · simp at hb
    · rw [List.concat_eq_append] at heq hb
      rw [← List.append_assoc] at heq
      obtain ⟨rfl, hac⟩ := List.append_inj' heq rfl
      obtain rfl : a = c := by simpa using hac
      rw [List.mem_append, List.mem_singleton] at hb
      obtain hb | rfl := hb
      · exact hlog before run after rfl hlen hrun l hl b hb
      · cases after with
        | nil =>
            -- the run ends where the new attempt begins
            have hle : run.length ≤ streak failed (before ++ run) := length_le_streak hrun
            have hne : run ≠ [] := by
              rintro rfl
              simp at hl
            have hpos := List.length_pos_iff.mpr hne
            rw [List.append_nil] at hlast
            refine hlast (by omega) (by omega) l ?_
            rw [List.getLast?_append_of_ne_nil _ hne]
            exact hl
        | cons m after =>
            have hm := hlog before run (m :: after) rfl hlen hrun l hl m (by simp)
            have hstart := horder m (by simp)
            omega

end Streaks
