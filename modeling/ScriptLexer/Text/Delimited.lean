/-! Where a stretch of text ends: before the first character that is not of its kind, or
where what is written says so itself. -/
namespace ScriptLexer.Text

/-! ### Stretches of one kind of character -/

/-- The longest stretch of wanted characters is one that none of them follows. -/
theorem takeWhile_exact {wanted : Char → Bool} {text after : List Char}
    (inside : ∀ d ∈ text, wanted d = true) (stops : ∀ d ∈ after.head?, wanted d = false) :
    (text ++ after).takeWhile wanted = text := by
  rw [List.takeWhile_append_of_pos inside]
  cases after with
  | nil => simp
  | cons d after => simp [stops d rfl]

/-- Every text divides before its first unwanted character. -/
theorem exists_stretch (wanted : Char → Bool) (rest : List Char) :
    ∃ text after, rest = text ++ after ∧ (∀ d ∈ text, wanted d = true) ∧
      ∀ d ∈ after.head?, wanted d = false := by
  induction rest with
  | nil => exact ⟨[], [], rfl, by simp, by simp⟩
  | cons d rest ih =>
    cases chosen : wanted d with
    | false => exact ⟨[], d :: rest, rfl, by simp, by simp [chosen]⟩
    | true =>
      obtain ⟨text, after, rfl, inside, stops⟩ := ih
      exact ⟨d :: text, after, rfl, by simpa [chosen] using inside, stops⟩

theorem ne_of_absent {text : List Char} {stop : Char} (absent : stop ∉ text) :
    ∀ c ∈ text, (c != stop) = true :=
  fun _ member => bne_iff_ne.mpr fun here => absent (here ▸ member)

/-- A text without a character reaches to where this character stands next. -/
theorem takeWhile_stop {text : List Char} {stop : Char} (absent : stop ∉ text)
    (rest : List Char) : (text ++ stop :: rest).takeWhile (· != stop) = text :=
  takeWhile_exact (ne_of_absent absent) (by simp)

theorem takeWhile_absent {text : List Char} {stop : Char} (absent : stop ∉ text) :
    text.takeWhile (· != stop) = text := by
  have whole : (text ++ []).takeWhile (· != stop) = text :=
    takeWhile_exact (ne_of_absent absent) (by simp)
  rwa [List.append_nil] at whole

theorem drop_stop (text : List Char) (stop : Char) (rest : List Char) :
    (text ++ stop :: rest).drop (text.length + 1) = rest := by
  rw [← List.drop_drop, List.drop_left, List.drop_one, List.tail_cons]

/-- Where a character stands for the first time is told by the text. -/
theorem before_stop {first second rest rest' : List Char} {stop : Char}
    (absent : stop ∉ first) (absent' : stop ∉ second)
    (same : first ++ stop :: rest = second ++ stop :: rest') : first = second ∧ rest = rest' := by
  have before : first = second := by
    rw [← takeWhile_stop absent rest, same, takeWhile_stop absent']
  subst before
  exact ⟨rfl, (List.cons.inj (List.append_cancel_left same)).2⟩

/-! ### Texts that tell where they end -/

/-- Whatever follows, what is written tells where it ends and what it says. -/
def SelfDelimiting {α : Type} (write : α → List Char) : Prop :=
  ∀ ⦃first second rest rest'⦄, write first ++ rest = write second ++ rest' →
    first = second ∧ rest = rest'

end ScriptLexer.Text
