import ScriptLexer.Proofs.Blocks
import ScriptLexer.Proofs.Joining
import ScriptLexer.Proofs.PromptMode
import ScriptLexer.Proofs.ScriptMode
import ScriptLexer.Proofs.Tiling

/-! The two modes on the same text. A session at the prompt scans the lines of a text one
by one, a run with a script scans them as a whole. As long as no string is open at the end
of a line, nothing crosses a line end, so the whole holds what the lines hold, each moved
down by the lines before it. -/
namespace ScriptLexer

open Text Source

variable {line : Nat} {text first : List Char}

/-! ### What the lines hold -/

/-- A string that is open at the end of a text is open behind a line end, too. -/
theorem open_lineEnd {line' : Int}
    (opened : .diagnostic (.unterminatedString line') ∈ found line first) :
    ∃ line', .diagnostic (.unterminatedString line') ∈ found line (first ++ ['\n']) := by
  induction first using source_induction generalizing line with
  | empty => cases opened
  | @span c body reading after cut ih =>
    by_cases string : reading = .fault .unterminatedString
    · subst string
      cases cut with
      | openString inside =>
        have unquoted : ∀ d ∈ body ++ ['\n'], d ≠ '"' :=
          List.forall_mem_append.mpr ⟨inside, List.forall_mem_singleton.mpr (by decide)⟩
        have longer : Cut '"' (body ++ ['\n']) (.fault .unterminatedString) [] :=
          .openString unquoted
        rw [List.append_nil, List.cons_append, ← List.append_nil (body ++ ['\n']),
          longer.found_fault]
        exact ⟨_, List.mem_cons_self⟩
    · have cut' : Cut c body reading (after ++ ['\n']) := cut.yield (yields_lineEnd after []) string
      have shape : c :: (body ++ after) ++ ['\n'] = c :: (body ++ (after ++ ['\n'])) := by simp
      rw [cut.found_eq, List.mem_append] at opened
      rw [shape, cut'.found_eq]
      rcases opened with here | later
      · exact ⟨_, List.mem_append_left _ here⟩
      · obtain ⟨line', member⟩ := ih later
        exact ⟨line', List.mem_append_right _ member⟩

/-- If all strings of a text with a line end behind it are closed, then so are all strings
of the text. -/
theorem Closed.before_lineEnd (closed : Closed (first ++ ['\n'])) : Closed first := by
  intro line opened
  obtain ⟨line', opened'⟩ := open_lineEnd (Scan.mem_diagnostics.mp opened)
  exact closed line' (Scan.mem_diagnostics.mpr opened')

theorem Finding.moveDown_zero : moveDown 0 = id := by
  funext finding
  cases finding with
  | token found => simp [moveDown, Token.moveDown]
  | diagnostic found => cases found <;> simp [moveDown, Diagnostic.moveDown]

theorem Finding.moveDown_moveDown (finding : Finding) (lines : Nat) :
    (finding.moveDown lines).moveDown 1 = finding.moveDown (lines + 1) := by
  cases finding with
  | token found => simp [moveDown, Token.moveDown, Int.add_assoc]
  | diagnostic found => cases found <;> simp [moveDown, Diagnostic.moveDown, Int.add_assoc]

/-- If no string is open at the end of a line, a text holds what its lines hold, each
moved down by the lines before it. -/
theorem found_lines (closed : ∀ line ∈ splitLines text, Closed line) :
    found 1 text = ((splitLines text).mapIdx fun index line =>
      (found 1 line).map (.moveDown index)).flatten := by
  induction text using line_induction with
  | empty => rfl
  | last text plain nonempty =>
    rw [splitLines_last plain nonempty, List.mapIdx_cons, List.mapIdx_nil, List.flatten_singleton,
      Finding.moveDown_zero, List.map_id]
  | lineEnd first rest plain ih =>
    rw [splitLines_lineEnd plain] at closed ⊢
    obtain ⟨here, others⟩ := List.forall_mem_cons.mp closed
    have above : ∀ line, .diagnostic (.unterminatedString line) ∉ found 1 first :=
      fun line opened => here.before_lineEnd line (Scan.mem_diagnostics.mpr opened)
    have single : found 1 (first ++ ['\n']) = found 1 first := by
      rw [found_joined above, found_nil, List.map_nil, List.append_nil]
    rw [found_joined above, ih others, List.count_eq_zero.mpr plain, List.mapIdx_cons,
      List.flatten_cons, single, Finding.moveDown_zero, List.map_id, List.map_flatten]
    simp [List.mapIdx_eq_zipIdx_map, Function.comp_def, Finding.moveDown_moveDown]

/-! ### Tokens and diagnostics -/

/-- No text holds the token for the end of the input. -/
theorem kind_of_found {token : Token} (member : .token token ∈ found line text) :
    token.kind ≠ .endOfInput := by
  induction text using source_induction generalizing line with
  | empty => cases member
  | @span c body reading after cut ih =>
    rw [cut.found_eq, List.mem_append] at member
    rcases member with here | later
    · cases reading with
      | token kind literal =>
        cases List.mem_singleton.mp here
        exact Pass.cut_kind cut
      | fault | trivia => cases here <;> contradiction
    · exact ih later

namespace Scan

/-- The tokens of a source without the one for the end of the input. -/
def inner (scan : Scan) : List Token :=
  scan.tokens.filter fun token => token.kind ≠ .endOfInput

theorem inner_eq (source : List Char) :
    (ofSource source).inner = (found 1 source).filterMap Finding.token? := by
  have kept : ∀ token ∈ (found 1 source).filterMap Finding.token?,
      decide (token.kind ≠ .endOfInput) = true := by
    intro token member
    obtain ⟨finding, inside, same⟩ := List.mem_filterMap.mp member
    cases finding with
    | diagnostic => cases same
    | token =>
      cases same
      exact decide_eq_true (kind_of_found inside)
  rw [inner, tokens_eq, List.filter_append, List.filter_eq_self.mpr kept]
  exact List.append_nil _

/-- The tokens of a source are the inner ones and the one for the end of the input. -/
theorem tokens_eq_inner (source : List Char) :
    (ofSource source).tokens =
      (ofSource source).inner ++ [.endOfInput (ofSource source).lastLine] := by
  rw [inner_eq, tokens_eq]

theorem inner_lines (closed : ∀ line ∈ splitLines text, Closed line) :
    (ofSource text).inner = ((splitLines text).mapIdx fun index line =>
      (ofSource line).inner.map (.moveDown index)).flatten := by
  rw [inner_eq, found_lines closed, List.filterMap_flatten]
  simp only [List.mapIdx_eq_zipIdx_map, List.map_map, Function.comp_def,
    Finding.filterMap_token?_moveDown, inner_eq]

theorem diagnostics_lines (closed : ∀ line ∈ splitLines text, Closed line) :
    (ofSource text).diagnostics = ((splitLines text).mapIdx fun index line =>
      (ofSource line).diagnostics.map (.moveDown index)).flatten := by
  rw [diagnostics_eq, found_lines closed, List.filterMap_flatten]
  simp only [List.mapIdx_eq_zipIdx_map, List.map_map, Function.comp_def,
    Finding.filterMap_diagnostic?_moveDown, diagnostics_eq]

end Scan

/-! ### The two modes -/

namespace Command

variable {arguments arguments' : List (List Char)} {environment environment' : Environment}
  {script prompt prompt' : List Char} {read : Path → Except ReadFault (List UInt8)}
  {blocks : List (List UInt8)}

/-- A run with a script shows of these lines what a session at the prompt shows of them,
apart from the tokens for the end of the input and with the lines counted on. -/
structure Agrees (prompt : List Char) (lines : List (List Char)) (script session : Visible) :
    Prop where
  session_stdout : session.stdout = withoutControlSequences prompt ++ lines.flatMap fun line =>
    let tokens := (Scan.ofSource line).inner ++ [Token.endOfInput (Scan.ofSource line).lastLine]
    onLines (tokens.map Token.print) ++ withoutControlSequences prompt
  script_stdout : ∃ last,
    let tokens := (lines.mapIdx fun index line =>
      (Scan.ofSource line).inner.map (Token.moveDown index)).flatten ++ [Token.endOfInput last]
    script.stdout = onLines (tokens.map Token.print)
  session_stderr : session.stderr = lines.flatMap fun line =>
    onLines ((Scan.ofSource line).diagnostics.map Diagnostic.print)
  script_stderr : script.stderr = if session.stderr = [] then [] else
    report (lines.mapIdx fun index line =>
      (Scan.ofSource line).diagnostics.map (Diagnostic.moveDown index)).flatten
  session_exit : session.exit = 0
  script_exit : script.exit = if session.stderr = [] then 0 else 65

/-- The diagnostics of lines are shown as nothing exactly if the text of the lines has
nothing wrong. -/
theorem shown_eq_nil_iff (closed : ∀ line ∈ splitLines text, Closed line) :
    (splitLines text).flatMap (fun line =>
      onLines ((Scan.ofSource line).diagnostics.map Diagnostic.print)) = [] ↔
        (Scan.ofSource text).diagnostics = [] := by
  rw [Scan.diagnostics_lines closed, List.flatMap_eq_nil_iff, List.flatten_eq_nil_iff]
  simp only [onLines_eq_nil_iff, List.map_eq_nil_iff]
  constructor
  · intro sound reported member
    obtain ⟨index, inside, rfl⟩ := List.mem_mapIdx.mp member
    rw [sound _ (List.getElem_mem inside), List.map_nil]
  · intro sound line member
    obtain ⟨index, inside, rfl⟩ := List.getElem_of_mem member
    exact List.map_eq_nil_iff.mp (sound _ (List.mem_mapIdx.mpr ⟨index, inside, rfl⟩))

/-- A text that is entered line by line at the prompt and the same text as a script show
the same tokens and the same diagnostics, whatever blocks the text arrives in. No line may be
blank, which ends the session, and no string may be open at the end of a line, which goes on
in the script. -/
theorem modes_agree (plain : '\r' ∉ text) (solid : ∀ line ∈ splitLines text, trim line ≠ [])
    (closed : ∀ line ∈ splitLines text, Closed line)
    (scripted : Asks arguments environment [script] ⟨prompt, false⟩)
    (prompted : Asks arguments' environment' [] ⟨prompt', false⟩)
    (readable : read (.ofText script) = .ok (Utf8.encode text))
    (arriving : blocks.flatten = Utf8.encode text) (input : Input)
    (read' : Path → Except ReadFault (List UInt8)) :
    Agrees prompt' (splitLines text) (run arguments environment read input)
      (run arguments' environment' read' (Input.ofBlocks blocks)) := by
  have script_shows : ShowsScan text (run arguments environment read input) := by
    rw [scripted.run_script, render_runScript readable, decodeScript_encode,
      foldLineEnds_of_not_mem plain]
    exact scanScript_shows _ _
  have all_entered : entered (splitLines text) = splitLines text :=
    List.takeWhile_eq_self_iff.mpr fun line member => decide_eq_true (solid line member)
  have nothing_wrong := shown_eq_nil_iff closed
  rw [prompted.run_prompt, Input.ofBlocks_encode arriving, foldLineEnds_of_not_mem plain,
    runPrompt_shows, session, all_entered]
  refine ⟨?_, ?_, rfl, ?_, rfl, ?_⟩
  · simp only [Scan.tokens_eq_inner]
  · refine ⟨(Scan.ofSource text).lastLine, ?_⟩
    rw [script_shows.stdout, Scan.tokens_eq_inner, Scan.inner_lines closed]
  · rw [← Scan.diagnostics_lines closed]
    split
    · rename_i silent
      exact (script_shows.sound (nothing_wrong.mp silent)).1
    · rename_i shown
      exact (script_shows.faulty (mt nothing_wrong.mpr shown)).1
  · split
    · rename_i silent
      exact (script_shows.sound (nothing_wrong.mp silent)).2
    · rename_i shown
      exact (script_shows.faulty (mt nothing_wrong.mpr shown)).2

/-- Two lines with something wrong in the second, which the quote in the comment of the
first does not hide. The blocks meet inside a character of the comment. -/
theorem modes_agree_below_comment :
    let text := "x // \"é\n@\n".toList
    let blocks : List (List UInt8) :=
      [[0x78, 0x20, 0x2f, 0x2f, 0x20, 0x22, 0xc3], [0xa9, 0x0a, 0x40, 0x0a]]
    let script := run ["x".toList] ⟨none, none⟩ (fun _ => .ok (Utf8.encode text)) ⟨[], none⟩
    let session := run [] ⟨none, none⟩ (fun _ => .error .missing) (Input.ofBlocks blocks)
    Agrees "> ".toList ["x // \"é\n".toList, "@\n".toList] script session ∧
      session.stderr = "[line 1] Error: Unexpected character\n".toList ∧
      script.stderr = "[line 2] Error: Unexpected character\n1 error\n".toList ∧
      script.exit = 65 := by
  intro text blocks script session
  have above : (Scan.ofSource "x // \"é\n".toList).diagnostics = [] := by decide +kernel
  have below : (Scan.ofSource "@\n".toList).diagnostics = [.unexpectedCharacter ['@'] 1] := by
    decide +kernel
  have closed : ∀ line ∈ splitLines text, Closed line := by
    refine List.forall_mem_cons.mpr ⟨?_, List.forall_mem_singleton.mpr ?_⟩
    · exact fun line opened => List.not_mem_nil (above ▸ opened)
    · intro line opened
      have same : Diagnostic.unterminatedString line = .unexpectedCharacter ['@'] 1 :=
        List.mem_singleton.mp (below ▸ opened)
      cases same
  have agrees : Agrees "> ".toList ["x // \"é\n".toList, "@\n".toList] script session :=
    modes_agree (by decide) (by decide) closed (@asks_script "x".toList rfl)
      ⟨.empty, rfl, rfl, rfl, rfl⟩ rfl (by decide) _ _
  have shown : session.stderr = "[line 1] Error: Unexpected character\n".toList := by
    rw [agrees.session_stderr]
    decide +kernel
  refine ⟨agrees, shown, ?_, ?_⟩
  · rw [agrees.script_stderr, shown]
    decide +kernel
  · rw [agrees.script_exit, shown]
    decide +kernel

end Command

end ScriptLexer
