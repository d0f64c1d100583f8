import LayeredConfig.Proofs.NumberTexts

/-!
# Reading back what is written

The compact text of a tree is scanned to the tokens of the tree, and these build the tree again. A number
or a word ends only where another character follows, so that scanning is stated for what follows a text as
well.
-/
set_option autoImplicit false

namespace LayeredConfig.JsonText

@[elab_as_elim]
theorem induct {motive : JsonText → Prop} (null : motive .null)
    (bool : ∀ value, motive (.bool value)) (number : ∀ value, motive (.number value))
    (string : ∀ value, motive (.string value))
    (array : ∀ items, (∀ item ∈ items, motive item) → motive (.array items))
    (object : ∀ members, (∀ member ∈ members, motive member.2) → motive (.object members))
    (tree : JsonText) : motive tree :=
  @JsonText.rec motive (fun items => ∀ item ∈ items, motive item)
    (fun members => ∀ member ∈ members, motive member.2) (fun member => motive member.2)
    null bool number string array object (List.forall_mem_nil _)
    (fun _ _ head tail => List.forall_mem_cons.2 ⟨head, tail⟩) (List.forall_mem_nil _)
    (fun _ _ head tail => List.forall_mem_cons.2 ⟨head, tail⟩) (fun _ _ value => value) tree

/-- Every literal of the tree has a value, and every number reads back. -/
inductive Legible : JsonText → Prop
  | null : Legible .null
  | bool (value : Bool) : Legible (.bool value)
  | number (value : Number) (readsBack : value.ReadsBack) : Legible (.number (some value))
  | string (value : String) : Legible (.string (some value))
  | array (items : List JsonText) (inside : ∀ item ∈ items, Legible item) : Legible (.array items)
  | object (members : List (Option String × JsonText)) (named : ∀ member ∈ members, member.1.isSome)
      (inside : ∀ member ∈ members, Legible member.2) : Legible (.object members)

mutual

def tokens : JsonText → List Token
  | .null => [.null]
  | .bool value => [.bool value]
  | .number value => [.number value]
  | .string value => [.string value]
  | .array items => .beginArray :: itemTokens items ++ [.endArray]
  | .object members => .beginObject :: memberTokens members ++ [.endObject]

def itemTokens : List JsonText → List Token
  | [] => []
  | [item] => tokens item
  | item :: rest => tokens item ++ .comma :: itemTokens rest

def memberTokens : List (Option String × JsonText) → List Token
  | [] => []
  | [(key, value)] => .string key :: .colon :: tokens value
  | (key, value) :: rest => .string key :: .colon :: (tokens value ++ .comma :: memberTokens rest)

end

def Delimits (text : List Char) : Prop :=
  ∀ c rest, text = c :: rest → isNumberChar c = false ∧ c.isLower = false

namespace Scan

theorem run_cons (state next : Scan) (c : Char) (text : List Char) (due : List Token)
    (stepped : step state c = some (next, due)) :
    run state (c :: text) = (run next text).map (due ++ ·) := by
  simp only [run, stepped, Option.bind_eq_bind, Option.bind_some]
  cases run next text <;> rfl

theorem run_quiet (state next : Scan) (c : Char) (text : List Char)
    (stepped : step state c = some (next, [])) : run state (c :: text) = run next text := by
  rw [run_cons state next c text [] stepped]
  simp

/-- Words and numbers are scanned alike: characters belong to them while they are `inside`, and the token
is due when one follows that is not. -/
structure Lexeme (state : List Char → Scan) (inside : Char → Bool)
    (token? : List Char → Option Token) : Prop where
  step_eq : ∀ reversed c, step (state reversed) c =
    if inside c then some (state (c :: reversed), [])
    else do
      let token ← token? reversed.reverse
      let (next, tokens) ← begin c
      pure (next, token :: tokens)
  finish_eq : ∀ reversed, (state reversed).finish =
    (token? reversed.reverse).map fun token => [token]

theorem words : Lexeme .word Char.isLower wordToken? :=
  ⟨fun _ _ => rfl, fun _ => rfl⟩

theorem numbers : Lexeme .number isNumberChar numberToken? :=
  ⟨fun _ _ => rfl, fun _ => rfl⟩

namespace Lexeme

variable {state : List Char → Scan} {inside : Char → Bool} {token? : List Char → Option Token}

theorem run_inside (lexeme : Lexeme state inside token?) (chars reversed text : List Char)
    (all : ∀ c ∈ chars, inside c) :
    run (state reversed) (chars ++ text) = run (state (chars.reverse ++ reversed)) text := by
  induction chars generalizing reversed with
  | nil => rfl
  | cons c rest ih =>
      obtain ⟨here, later⟩ := List.forall_mem_cons.1 all
      have stepped : step (state reversed) c = some (state (c :: reversed), []) := by
        rw [lexeme.step_eq, if_pos here]
      rw [List.cons_append, run_quiet _ _ c _ stepped, ih (c :: reversed) later]
      simp

theorem run_end (lexeme : Lexeme state inside token?) (reversed text : List Char) (token : Token)
    (read : token? reversed.reverse = some token)
    (ends : ∀ c rest, text = c :: rest → inside c = false) :
    run (state reversed) text = (run .between text).map (token :: ·) := by
  cases text with
  | nil =>
      rw [run, lexeme.finish_eq, read]
      rfl
  | cons c rest =>
      have stepped := lexeme.step_eq reversed c
      rw [ends c rest rfl, if_neg Bool.false_ne_true, read] at stepped
      cases begun : begin c with
      | none =>
          have refused : step .between c = none := begun
          rw [begun] at stepped
          simp [run, stepped, refused]
      | some next =>
          rw [begun] at stepped
          rw [run_cons _ next.1 c rest (token :: next.2) stepped,
            run_cons .between next.1 c rest next.2 begun, Option.map_map]
          rfl

theorem run_whole (lexeme : Lexeme state inside token?) (first : Char) (rest text : List Char)
    (token : Token) (begins : begin first = some (state [first], [])) (all : ∀ c ∈ rest, inside c)
    (read : token? (first :: rest) = some token)
    (ends : ∀ c rest, text = c :: rest → inside c = false) :
    run .between (first :: rest ++ text) = (run .between text).map (token :: ·) := by
  rw [List.cons_append, run_quiet .between _ first _ begins, lexeme.run_inside rest _ text all]
  exact lexeme.run_end _ text token (by simpa using read) ends

end Lexeme

theorem begin_number (c : Char) (starts : c.isDigit ∨ c = '-') :
    begin c = some (.number [c], []) := by
  rcases starts with digit | rfl
  · have apart : ∀ other : Char, other.isDigit = false → c ≠ other := by
      rintro other no rfl
      rw [digit] at no
      cases no
    simp [begin, isBlank, digit, apart ' ' rfl, apart '\t' rfl, apart '\n' rfl, apart '\r' rfl,
      apart '[' rfl, apart ']' rfl, apart '\x7b' rfl, apart '\x7d' rfl, apart ':' rfl, apart ',' rfl,
      apart '"' rfl]
  · rfl

def inString (reversed : List Char) : Scan :=
  .string ⟨reversed, true, none, .plain⟩

theorem run_short_escape (letter c : Char) (reversed text : List Char) (different : letter ≠ 'u')
    (named : escaped? letter = some c) :
    run (inString reversed) ('\\' :: letter :: text) = run (inString (c :: reversed)) text := by
  have opened : step (inString reversed) '\\' =
      some (.string ⟨reversed, true, none, .backslash⟩, []) := rfl
  have closed : step (.string ⟨reversed, true, none, .backslash⟩) letter =
      some (inString (c :: reversed), []) := by
    simp only [step, stepString, different, if_false, named, Option.map_some]
    rfl
  rw [run_quiet _ _ _ _ opened, run_quiet _ _ _ _ closed]

theorem hex_digit_value : ∀ digit < 16, hexValue? (hexDigit digit) = some digit := by
  decide

theorem run_control (c : Char) (reversed text : List Char) (small : c.toNat < 32) :
    run (inString reversed) ('\\' :: 'u' :: '0' :: '0' :: hexDigit (c.toNat / 16) ::
      hexDigit (c.toNat % 16) :: text) = run (inString (c :: reversed)) text := by
  have high := hex_digit_value (c.toNat / 16) (by omega)
  have low := hex_digit_value (c.toNat % 16) (by omega)
  have whole : c.toNat / 16 * 16 + c.toNat % 16 = c.toNat := by omega
  have third : step (.string ⟨reversed, true, none, .hex 2 0⟩) (hexDigit (c.toNat / 16)) =
      some (.string ⟨reversed, true, none, .hex 1 (c.toNat / 16)⟩, []) := by
    simp [step, stepString, high]
  have last : step (.string ⟨reversed, true, none, .hex 1 (c.toNat / 16)⟩) (hexDigit (c.toNat % 16)) =
      some (inString (c :: reversed), []) := by
    have unpaired : ¬ (0xD800 ≤ c.toNat ∧ c.toNat < 0xDC00) := by omega
    have alone : ¬ (0xDC00 ≤ c.toNat ∧ c.toNat < 0xE000) := by omega
    simp only [step, stepString, low, whole, le_refl, if_true, StringState.pushUnit, unpaired, alone,
      if_false, Char.ofNat_toNat]
    rfl
  rw [run_quiet _ (.string ⟨reversed, true, none, .backslash⟩) _ _ rfl,
    run_quiet _ (.string ⟨reversed, true, none, .hex 4 0⟩) _ _ rfl,
    run_quiet _ (.string ⟨reversed, true, none, .hex 3 0⟩) _ _ rfl,
    run_quiet _ (.string ⟨reversed, true, none, .hex 2 0⟩) _ _ rfl,
    run_quiet _ _ _ _ third, run_quiet _ _ _ _ last]

theorem run_escaped (c : Char) (reversed text : List Char) :
    run (inString reversed) (escapeChar c ++ text) = run (inString (c :: reversed)) text := by
  unfold escapeChar
  split_ifs with quoted backslash backspace feed line carriage tab control
  · exact run_short_escape '"' c reversed text (by decide) (by rw [quoted]; rfl)
  · exact run_short_escape '\\' c reversed text (by decide) (by rw [backslash]; rfl)
  · exact run_short_escape 'b' c reversed text (by decide) (by rw [backspace]; rfl)
  · exact run_short_escape 'f' c reversed text (by decide) (by rw [feed]; rfl)
  · exact run_short_escape 'n' c reversed text (by decide) (by rw [line]; rfl)
  · exact run_short_escape 'r' c reversed text (by decide) (by rw [carriage]; rfl)
  · exact run_short_escape 't' c reversed text (by decide) (by rw [tab]; rfl)
  · exact run_control c reversed text control
  · have plain : step (inString reversed) c = some (inString (c :: reversed), []) := by
      simp only [inString, step, stepString, quoted, backslash, control, if_false]
      rfl
    exact run_quiet _ _ c text plain

theorem run_characters (characters reversed text : List Char) :
    run (inString reversed) (characters.flatMap escapeChar ++ text) =
      run (inString (characters.reverse ++ reversed)) text := by
  induction characters generalizing reversed with
  | nil => rfl
  | cons c rest ih =>
      rw [List.flatMap_cons, List.append_assoc, run_escaped, ih (c :: reversed)]
      simp

theorem run_string (value : String) (text : List Char) :
    run .between (quote value ++ text) =
      (run .between text).map (.string (some value) :: ·) := by
  have closed : step (inString value.toList.reverse) '"' =
      some (.between, [.string (some value)]) := by
    simp [inString, step, stepString, StringState.value]
  rw [quote, List.cons_append, List.cons_append, List.append_assoc, run_quiet .between (inString []) _ _ rfl,
    run_characters, List.append_nil]
  exact run_cons _ _ _ _ _ closed

theorem run_word (first : Char) (rest text : List Char) (token : Token)
    (begins : begin first = some (.word [first], [])) (lower : rest.all Char.isLower)
    (read : wordToken? (first :: rest) = some token) (delimited : Delimits text) :
    run .between (first :: rest ++ text) = (run .between text).map (token :: ·) :=
  words.run_whole first rest text token begins (List.all_eq_true.1 lower) read fun c more same =>
    (delimited c more same).2

theorem run_literal (value : Number) (readsBack : value.ReadsBack) (text : List Char)
    (delimited : Delimits text) :
    run .between (value.toText.toList ++ text) =
      (run .between text).map (.number (some value) :: ·) := by
  obtain ⟨literal, read, same⟩ := Option.map_eq_some_iff.1 readsBack
  obtain ⟨chars, first, rest, split, starts⟩ := Literal.chars_of_read _ literal read
  have token : numberToken? value.toText.toList = some (.number (some value)) := by
    rw [numberToken?, read, Option.map_some, same]
  rw [split] at chars token ⊢
  exact numbers.run_whole first rest text _ (begin_number first starts)
    (List.forall_mem_cons.1 chars).2 token fun c more same => (delimited c more same).1

end Scan

theorem delimits_cons (c : Char) (text : List Char) (other : isNumberChar c = false)
    (notLower : c.isLower = false) : Delimits (c :: text) := by
  intro first rest same
  cases same
  exact ⟨other, notLower⟩

theorem write_items_further (item next : JsonText) (more : List JsonText) :
    writeItems (item :: next :: more) = write item ++ ',' :: writeItems (next :: more) :=
  rfl

theorem write_members_further (key : Option String) (value : JsonText)
    (next : Option String × JsonText) (more : List (Option String × JsonText)) :
    writeMembers ((key, value) :: next :: more) =
      quote (key.getD "") ++ ':' :: (write value ++ ',' :: writeMembers (next :: more)) :=
  rfl

/-- The text of a tree is scanned to its tokens, whatever ends it. -/
def Scans (tree : JsonText) : Prop :=
  ∀ text, Delimits text →
    Scan.run .between (write tree ++ text) = (Scan.run .between text).map (tokens tree ++ ·)

theorem scan_items (items : List JsonText) (scans : ∀ item ∈ items, Scans item) (text : List Char)
    (delimited : Delimits text) :
    Scan.run .between (writeItems items ++ text) =
      (Scan.run .between text).map (itemTokens items ++ ·) := by
  induction items with
  | nil => simp [writeItems, itemTokens]
  | cons item rest ih =>
      obtain ⟨here, later⟩ := List.forall_mem_cons.1 scans
      cases rest with
      | nil => exact here text delimited
      | cons next more =>
          have comma := Scan.run_cons .between .between ',' (writeItems (next :: more) ++ text) [.comma] rfl
          have further := here (',' :: (writeItems (next :: more) ++ text)) (delimits_cons _ _ rfl rfl)
          rw [write_items_further, List.append_assoc, List.cons_append, further, comma, ih later]
          simp [itemTokens, Function.comp_def]

theorem scan_members (members : List (Option String × JsonText))
    (named : ∀ member ∈ members, member.1.isSome) (scans : ∀ member ∈ members, Scans member.2)
    (text : List Char) (delimited : Delimits text) :
    Scan.run .between (writeMembers members ++ text) =
      (Scan.run .between text).map (memberTokens members ++ ·) := by
  induction members with
  | nil => simp [writeMembers, memberTokens]
  | cons member rest ih =>
      obtain ⟨key, value⟩ := member
      obtain ⟨here, later⟩ := List.forall_mem_cons.1 scans
      obtain ⟨keyed, othersNamed⟩ := List.forall_mem_cons.1 named
      obtain ⟨name, rfl⟩ := Option.isSome_iff_exists.1 keyed
      have colon (following : List Char) :=
        Scan.run_cons .between .between ':' (write value ++ following) [.colon] rfl
      cases rest with
      | nil =>
          rw [writeMembers, Option.getD_some, List.append_assoc, Scan.run_string, List.cons_append,
            colon, here text delimited]
          simp [memberTokens, Function.comp_def]
      | cons next more =>
          have comma := Scan.run_cons .between .between ',' (writeMembers (next :: more) ++ text)
            [.comma] rfl
          have further := here (',' :: (writeMembers (next :: more) ++ text)) (delimits_cons _ _ rfl rfl)
          rw [write_members_further, Option.getD_some, List.append_assoc, Scan.run_string,
            List.cons_append, List.append_assoc, colon, List.cons_append, further, comma,
            ih othersNamed later]
          simp [memberTokens, Function.comp_def]

theorem scan_text (tree : JsonText) (legible : tree.Legible) : Scans tree := by
  induction legible with
  | null => exact fun text => Scan.run_word 'n' ['u', 'l', 'l'] text .null rfl rfl rfl
  | bool value =>
      cases value with
      | true => exact fun text => Scan.run_word 't' ['r', 'u', 'e'] text _ rfl rfl rfl
      | false => exact fun text => Scan.run_word 'f' ['a', 'l', 's', 'e'] text _ rfl rfl rfl
  | number value readsBack => exact Scan.run_literal value readsBack
  | string value => exact fun text _ => Scan.run_string value text
  | array items _ scans =>
      intro text delimited
      have closed := Scan.run_cons .between .between ']' text [.endArray] rfl
      have inside := scan_items items scans (']' :: text) (delimits_cons _ _ rfl rfl)
      rw [write, List.cons_append, List.cons_append, List.append_assoc,
        Scan.run_cons .between .between '[' _ [.beginArray] rfl, List.cons_append, List.nil_append,
        inside, closed]
      simp [tokens, Function.comp_def]
  | object members named _ scans =>
      intro text delimited
      have closed := Scan.run_cons .between .between '\x7d' text [.endObject] rfl
      have inside := scan_members members named scans ('\x7d' :: text) (delimits_cons _ _ rfl rfl)
      rw [write, List.cons_append, List.cons_append, List.append_assoc,
        Scan.run_cons .between .between '\x7b' _ [.beginObject] rfl, List.cons_append,
        List.nil_append, inside, closed]
      simp [tokens, Function.comp_def]

/-- The tokens of a tree build it, whatever is open around it. -/
def Builds (tree : JsonText) : Prop :=
  ∀ stack rest, Build.run (.value stack) (tokens tree ++ rest) = Build.run (.after tree stack) rest

theorem build_items (items : List JsonText) (nonempty : items ≠ [])
    (builds : ∀ item ∈ items, Builds item) (reversed : List JsonText) (stack : List Frame)
    (rest : List Token) :
    Build.run (.value (.array reversed :: stack)) (itemTokens items ++ .endArray :: rest) =
      Build.run (.after (.array (reversed.reverse ++ items)) stack) rest := by
  induction items generalizing reversed with
  | nil => exact absurd rfl nonempty
  | cons item others ih =>
      obtain ⟨here, later⟩ := List.forall_mem_cons.1 builds
      cases others with
      | nil =>
          rw [itemTokens, here]
          simp [Build.run, Build.step]
      | cons next more =>
          have comma (following : List Token) :
              Build.run (.after item (.array reversed :: stack)) (.comma :: following) =
                Build.run (.value (.array (item :: reversed) :: stack)) following := rfl
          have split : itemTokens (item :: next :: more) =
              tokens item ++ .comma :: itemTokens (next :: more) := rfl
          rw [split, List.append_assoc, here, List.cons_append, comma,
            ih (List.cons_ne_nil _ _) later]
          simp

theorem build_members (members : List (Option String × JsonText)) (nonempty : members ≠ [])
    (builds : ∀ member ∈ members, Builds member.2) (reversed : List (Option String × JsonText))
    (stack : List Frame) (rest : List Token) :
    Build.run (.nextKey reversed stack) (memberTokens members ++ .endObject :: rest) =
      Build.run (.after (.object (reversed.reverse ++ members)) stack) rest := by
  induction members generalizing reversed with
  | nil => exact absurd rfl nonempty
  | cons member others ih =>
      obtain ⟨key, value⟩ := member
      obtain ⟨here, later⟩ := List.forall_mem_cons.1 builds
      have keyed (following : List Token) :
          Build.run (.nextKey reversed stack) (.string key :: .colon :: following) =
            Build.run (.value (.object reversed key :: stack)) following := rfl
      cases others with
      | nil =>
          rw [memberTokens, List.cons_append, List.cons_append, keyed, here]
          simp [Build.run, Build.step]
      | cons next more =>
          have comma (following : List Token) :
              Build.run (.after value (.object reversed key :: stack)) (.comma :: following) =
                Build.run (.nextKey ((key, value) :: reversed) stack) following := rfl
          have split : memberTokens ((key, value) :: next :: more) =
              .string key :: .colon :: (tokens value ++ .comma :: memberTokens (next :: more)) := rfl
          rw [split, List.cons_append, List.cons_append, keyed, List.append_assoc, here,
            List.cons_append, comma, ih (List.cons_ne_nil _ _) later]
          simp

/-- A first item begins like a further one: no tree begins with a closing bracket. -/
theorem first_item (item : JsonText) (stack : List Frame) (rest : List Token) :
    Build.run (.firstItem stack) (tokens item ++ rest) =
      Build.run (.value (.array [] :: stack)) (tokens item ++ rest) := by
  cases item <;> rfl

theorem items_begin (item : JsonText) (more : List JsonText) :
    ∃ rest, itemTokens (item :: more) = tokens item ++ rest := by
  cases more with
  | nil => exact ⟨[], (List.append_nil _).symm⟩
  | cons next more => exact ⟨_, rfl⟩

theorem members_begin (key : Option String) (value : JsonText)
    (more : List (Option String × JsonText)) :
    ∃ rest, memberTokens ((key, value) :: more) = .string key :: rest := by
  cases more with
  | nil => exact ⟨_, rfl⟩
  | cons next more => exact ⟨_, rfl⟩

theorem build_text (tree : JsonText) : Builds tree := by
  induction tree using induct with
  | null => exact fun _ _ => rfl
  | bool value => exact fun _ _ => rfl
  | number value => exact fun _ _ => rfl
  | string value => exact fun _ _ => rfl
  | array items builds =>
      intro stack rest
      have opened (following : List Token) : Build.run (.value stack) (.beginArray :: following) =
          Build.run (.firstItem stack) following := rfl
      rw [tokens, List.cons_append, List.cons_append, opened, List.append_assoc, List.cons_append,
        List.nil_append]
      cases items with
      | nil => rfl
      | cons item more =>
          have built := build_items (item :: more) (List.cons_ne_nil _ _) builds [] stack rest
          obtain ⟨others, begins⟩ := items_begin item more
          rw [begins, List.append_assoc] at built ⊢
          exact (first_item item stack _).trans built
  | object members builds =>
      intro stack rest
      have opened (following : List Token) : Build.run (.value stack) (.beginObject :: following) =
          Build.run (.firstKey stack) following := rfl
      rw [tokens, List.cons_append, List.cons_append, opened, List.append_assoc, List.cons_append,
        List.nil_append]
      cases members with
      | nil => rfl
      | cons member more =>
          have built := build_members (member :: more) (List.cons_ne_nil _ _) builds [] stack rest
          obtain ⟨others, begins⟩ := members_begin member.1 member.2 more
          rw [begins, List.cons_append] at built ⊢
          exact built

theorem parse_render (tree : JsonText) (legible : tree.Legible) : parse? tree.render = some tree := by
  have ends : Delimits [] := fun c rest same => nomatch same
  have scanned := scan_text tree legible [] ends
  have built := build_text tree [] []
  rw [List.append_nil] at scanned built
  have all : Scan.run .between [] = some [] := rfl
  rw [all, Option.map_some, List.append_nil] at scanned
  rw [parse?, render, String.toList_ofList, scanned]
  exact built

end LayeredConfig.JsonText
