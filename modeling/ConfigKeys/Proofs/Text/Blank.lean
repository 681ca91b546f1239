import ConfigKeys.Text.Blank

/-!
# Words

The words of a text are what stands between its white space.  Words that are joined by blanks are
read back as they are, if none of them is empty or has white space inside.

## Main results

* `Blank.words_eq` — the words of a text, by cutting it at every white space.
* `Blank.words_intercalate` — **joined words are read back.**
-/

namespace ConfigKeys.Blank

/-- The longest parts of a text without white space, those that are empty left out. -/
def wordChars (cs : List Char) : List (List Char) := (cs.splitOnP isBlank).filter (· ≠ [])

theorem wordChars_of_plain {word : List Char} (h : ∀ c ∈ word, isBlank c = false) :
    wordChars word = if word = [] then [] else [word] := by
  rw [wordChars, List.splitOnP_eq_singleton h]
  split <;> simp [*]

theorem wordChars_append_blank {word : List Char} {c : Char} (h : ∀ c ∈ word, isBlank c = false)
    (hc : isBlank c = true) (rest : List Char) :
    wordChars (word ++ c :: rest) = (if word = [] then [] else [word]) ++ wordChars rest := by
  rw [wordChars, List.splitOnP_append_cons_of_forall_mem h c hc, List.filter_cons]
  split <;> simp_all [wordChars]

/-- Words are found one after the other, each when the white space after it is read. -/
theorem wordsFrom_eq {word : List Char} {found : List String} {cs : List Char}
    (h : ∀ c ∈ word, isBlank c = false) :
    wordsFrom word found cs = found.reverse ++ (wordChars (word.reverse ++ cs)).map .ofList := by
  have hreverse : ∀ {word : List Char}, (∀ c ∈ word, isBlank c = false) →
      ∀ c ∈ word.reverse, isBlank c = false :=
    fun h c hc => h c (List.mem_reverse.mp hc)
  fun_induction wordsFrom word found cs with
  | case1 word found =>
    rw [List.append_nil, wordChars_of_plain (hreverse h)]
    cases word <;> simp
  | case2 word found c rest hc ih =>
    rw [ih (by simp), wordChars_append_blank (hreverse h) hc]
    cases word <;> simp
  | case3 word found c rest hc ih =>
    rw [ih (List.forall_mem_cons.mpr ⟨by simpa using hc, h⟩)]
    simp

/-- **The words of a text** are its longest parts without white space. -/
theorem words_eq (text : String) : words text = (wordChars text.toList).map .ofList := by
  rw [words, wordsFrom_eq (by simp)]
  rfl

/-- **Words that are joined by blanks are read back**, if they are words. -/
theorem words_intercalate {ws : List String}
    (h : ∀ w ∈ ws, w ≠ "" ∧ ∀ c ∈ w.toList, isBlank c = false) :
    words (" ".intercalate ws) = ws := by
  rw [words_eq]
  induction ws with
  | nil => rfl
  | cons w rest ih =>
    obtain ⟨⟨hne, hplain⟩, hrest⟩ := List.forall_mem_cons.mp h
    have hchars : w.toList ≠ [] := by simpa using hne
    rcases rest with _ | ⟨w', rest⟩
    · rw [String.intercalate_singleton, wordChars_of_plain hplain, if_neg hchars]
      simp
    · rw [String.intercalate_cons_cons, String.toList_append, String.toList_append,
        List.append_assoc]
      show (wordChars (w.toList ++ ' ' :: (" ".intercalate (w' :: rest)).toList)).map _ = _
      rw [wordChars_append_blank hplain (by decide), if_neg hchars, List.map_append, ih hrest]
      simp

end ConfigKeys.Blank
