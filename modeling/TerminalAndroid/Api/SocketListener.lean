import Mathlib.Data.List.Count
import Mathlib.Data.List.DropRight

namespace SocketListener

abbrev Text := List Char

def quote : Char := Char.ofNat 34
def backslash : Char := Char.ofNat 92

inductive Flag
  | e
  | es
  | esa
  deriving DecidableEq

def Flag.word : Flag → Text
  | .e => "-e".toList
  | .es => "--es".toList
  | .esa => "--esa".toList

/-- `(.*?)(?<!\\\\)"`: the text up to the first quote that does not follow a backslash, and the rest. -/
def quoted (previous : Char) : Text → Option (Text × Text)
  | [] => none
  | c :: line =>
    if c = quote ∧ previous ≠ backslash then some ([], line) else (quoted c line).map fun found => (c :: found.1, found.2)

/-- ` +([^ ]+) +"` and the quoted text. A run of spaces and a key are as long as they can be. -/
def arguments (line : Text) : Option (Text × Text × Text) :=
  let afterSpaces := line.dropWhile (· = ' ')
  let key := afterSpaces.takeWhile (· ≠ ' ')
  let afterKey := afterSpaces.dropWhile (· ≠ ' ')
  match afterKey.dropWhile (· = ' ') with
  | [] => none
  | c :: text =>
    if line.head? ≠ some ' ' ∨ key = [] ∨ c ≠ quote then none else (quoted quote text).map fun found => (key, found)

def matchOption (line : Text) (option : Flag) : Option (Flag × Text × Text × Text) :=
  if option.word.isPrefixOf line then (arguments (line.drop option.word.length)).map fun found => (option, found) else none

def matchExtra (line : Text) : Option (Flag × Text × Text × Text) :=
  (matchOption line .e).or ((matchOption line .es).or (matchOption line .esa))

def extract : Nat → Text → List (Flag × Text × Text) × Text
  | 0, line => ([], line)
  | fuel + 1, line =>
    match matchExtra line with
    | some (option, key, content, rest) =>
      let (extras, left) := extract fuel rest
      ((option, key, content) :: extras, left)
    | none =>
      match line with
      | [] => ([], [])
      | c :: line =>
        let (extras, left) := extract fuel line
        (extras, c :: left)

def unescapeQuotes : Text → Text
  | [] => []
  | c :: text => if c = backslash ∧ text.head? = some quote then unescapeQuotes text else c :: unescapeQuotes text

/-- `split("(?<!\\\\),")` before the empty strings at the end are dropped. -/
def split (previous : Char) : Text → Text × List Text
  | [] => ([], [])
  | c :: text =>
    let (part, parts) := split c text
    if c = ',' ∧ previous ≠ backslash then ([], part :: parts) else (c :: part, parts)

/-- `replaceFirst("\\\\,", ",")`. -/
def unescapeComma : Text → Text
  | [] => []
  | c :: text => if c = backslash ∧ text.head? = some ',' then text else c :: unescapeComma text

def splitList (content : Text) : List Text :=
  let (part, parts) := split ' ' content
  (if parts = [] then [part] else (part :: parts).rdropWhile (· = [])).map unescapeComma

inductive Value
  | string (s : Text)
  | list (elements : List Text)
  deriving DecidableEq

def value (option : Flag) (content : Text) : Value :=
  if option = .esa then .list (splitList content) else .string (unescapeQuotes content)

/-- What `createSocketListener` puts into the maps of string extras, in this order, and the line it goes on with. -/
def parse (line : Text) : List (Text × Value) × Text :=
  let (extras, left) := extract line.length line
  (extras.map fun extra => (extra.2.1, value extra.1 extra.2.2), left)

section Encoding

def escape (special : List Char) (text : Text) : Text := text.flatMap fun c => if c ∈ special then [backslash, c] else [c]

def encodeList : List Text → Text
  | [] => []
  | [element] => escape [quote, ','] element
  | element :: elements => escape [quote, ','] element ++ ',' :: encodeList elements

inductive Extra
  | string (long : Bool) (key text : Text)
  | list (key : Text) (elements : List Text)

def Extra.option : Extra → Flag
  | .string long _ _ => if long then .es else .e
  | .list _ _ => .esa

def Extra.key : Extra → Text
  | .string _ key _ => key
  | .list key _ => key

def Extra.content : Extra → Text
  | .string _ _ text => escape [quote] text
  | .list _ elements => encodeList elements

def Extra.value : Extra → Value
  | .string _ _ text => .string text
  | .list _ elements => .list elements

def render : List Extra → Text
  | [] => []
  | x :: extras => x.option.word ++ ' ' :: (x.key ++ ' ' :: quote :: (x.content ++ quote :: ' ' :: render extras))

/-- No backslash ends a string, and a list has elements that say where they end and have at most one comma each. -/
def Extra.Faithful : Extra → Prop
  | .string _ _ text => text.getLast? ≠ some backslash
  | .list _ elements => elements ≠ [] ∧ (elements.length = 1 ∨ elements.getLast? ≠ some []) ∧
      ∀ element ∈ elements, element.getLast? ≠ some backslash ∧ quote ∉ element ∧ element.count ',' ≤ 1

end Encoding

variable {p c : Char} {t rest line : Text} {special : List Char} {fuel : Nat} {x : Extra} {extras : List Extra}

section Ends

def ending (p : Char) (t : Text) : Char := t.getLastD p

@[simp] theorem ending_nil : ending p [] = p := rfl

@[simp] theorem ending_cons : ending p (c :: t) = ending c t := by
  cases t <;> rfl

theorem ending_append : ending p (t ++ rest) = ending (ending p t) rest := by
  induction t generalizing p with
  | nil => rfl
  | cons c t ih => simpa using ih

theorem ending_ne_iff (start : p ≠ backslash) : ending p t ≠ backslash ↔ t.getLast? ≠ some backslash := by
  rcases List.eq_nil_or_concat t with rfl | ⟨t, c, rfl⟩
  · simpa using start
  · simp [ending]

theorem ending_escape : ending p (escape special t) = ending p t := by
  induction t generalizing p with
  | nil => rfl
  | cons c t ih =>
    rw [escape, List.flatMap_cons, ← escape, ending_append, ih]
    split <;> simp

theorem ending_unescapeQuotes : ending p (unescapeQuotes t) = ending p t := by
  fun_induction unescapeQuotes t generalizing p with
  | case1 => rfl
  | case2 c t skip ih =>
    rcases t with _ | ⟨d, t⟩
    · cases skip.2
    · simpa using ih
  | case3 c t _ ih => simpa using ih

theorem ending_unescapeComma : ending p (unescapeComma t) = ending p t := by
  fun_induction unescapeComma t generalizing p with
  | case1 => rfl
  | case2 c t skip =>
    rcases t with _ | ⟨d, t⟩
    · cases skip.2
    · simp
  | case3 c t _ ih => simpa using ih

theorem ending_quoted (found : quoted p line = some (t, rest)) : ending p t ≠ backslash := by
  fun_induction quoted p line generalizing t with
  | case1 => cases found
  | case2 p c line stops =>
    cases found
    exact stops.2
  | case3 p c line _ ih =>
    rcases Option.map_eq_some_iff.mp found with ⟨⟨inner, _⟩, later, same⟩
    cases same
    simpa using ih later

theorem ending_split (open_ : ending p t ≠ backslash) :
    ending p (split p t).1 ≠ backslash ∧ ∀ part ∈ (split p t).2, ending ',' part ≠ backslash := by
  induction t generalizing p with
  | nil => exact ⟨open_, fun _ mem => absurd mem List.not_mem_nil⟩
  | cons c t ih =>
    rcases ih (by simpa using open_) with ⟨first, others⟩
    rw [split]
    dsimp only
    split
    · next splits =>
      exact ⟨splits.2, List.forall_mem_cons.mpr ⟨splits.1 ▸ first, others⟩⟩
    · exact ⟨by simpa using first, others⟩

theorem splitList_ends (open_ : ending ' ' t ≠ backslash) : ∀ element ∈ splitList t, element.getLast? ≠ some backslash := by
  have parts := ending_split open_
  intro element mem
  rcases List.mem_map.mp mem with ⟨part, found, rfl⟩
  have kept : part ∈ (split ' ' t).1 :: (split ' ' t).2 := by
    split at found
    · exact List.mem_cons.mpr (.inl (List.mem_singleton.mp found))
    · exact (List.rdropWhile_prefix _ _).subset found
  rcases List.mem_cons.mp kept with rfl | later
  · rw [← ending_ne_iff (by decide : ' ' ≠ backslash), ending_unescapeComma]
    exact parts.1
  · rw [← ending_ne_iff (by decide : ',' ≠ backslash), ending_unescapeComma]
    exact parts.2 part later

end Ends

variable {key : Text} {option : Flag} {elements : List Text}

section Matches

def Guarded (p : Char) : Text → Prop
  | [] => True
  | c :: t => (c = quote → p = backslash) ∧ Guarded c t

theorem guarded_append : Guarded p (t ++ rest) ↔ Guarded p t ∧ Guarded (ending p t) rest := by
  induction t generalizing p with
  | nil => simp [Guarded]
  | cons c t ih => simp [Guarded, ih, and_assoc]

theorem guarded_escape (guards : quote ∈ special) : Guarded p (escape special t) := by
  induction t generalizing p with
  | nil => trivial
  | cons c t ih =>
    rw [escape, List.flatMap_cons, ← escape, guarded_append]
    split
    · exact ⟨by simp [Guarded, show backslash ≠ quote by decide], ih⟩
    · next plain => exact ⟨⟨fun same => absurd (same ▸ guards) plain, trivial⟩, ih⟩

theorem guarded_encodeList (elements : List Text) : Guarded p (encodeList elements) := by
  fun_induction encodeList elements generalizing p with
  | case1 => trivial
  | case2 element => exact guarded_escape (by simp)
  | case3 element elements _ ih =>
    exact guarded_append.mpr ⟨guarded_escape (by simp), by simp [Guarded, ih, show ',' ≠ quote by decide]⟩

theorem guarded_content : Guarded p x.content := by
  cases x with
  | string long key text => exact guarded_escape (by simp)
  | list key elements => exact guarded_encodeList elements

theorem quoted_guarded (guarded : Guarded p t) (open_ : ending p t ≠ backslash) :
    quoted p (t ++ quote :: rest) = some (t, rest) := by
  induction t generalizing p with
  | nil => exact if_pos ⟨rfl, open_⟩
  | cons c t ih =>
    have skipped : ¬(c = quote ∧ p ≠ backslash) := fun stops => stops.2 (guarded.1 stops.1)
    rw [List.cons_append, quoted, if_neg skipped, ih guarded.2 (by simpa using open_)]
    rfl

theorem arguments_rendered (plain : key ≠ [] ∧ ' ' ∉ key) :
    arguments (' ' :: (key ++ ' ' :: quote :: rest)) = (quoted quote rest).map fun found => (key, found) := by
  have apart : ∀ d ∈ key, decide (d ≠ ' ') = true := by grind
  have start : (key ++ ' ' :: quote :: rest).dropWhile (· = ' ') = key ++ ' ' :: quote :: rest := by
    rcases key with _ | ⟨c, key⟩
    · exact absurd rfl plain.1
    · simp at apart
      simp [apart.1]
  rw [arguments, List.dropWhile_cons_of_pos rfl, start,
    List.takeWhile_append_of_pos apart, List.dropWhile_append_of_pos apart, List.takeWhile_cons_of_neg (by decide),
    List.dropWhile_cons_of_neg (by decide), List.dropWhile_cons_of_pos rfl, List.dropWhile_cons_of_neg (by decide)]
  simp [plain.1]

theorem arguments_unspaced (other : c ≠ ' ') : arguments (c :: line) = none := by
  rw [arguments]
  split
  · rfl
  · exact if_pos (.inl (by simpa using other))

theorem matchExtra_rendered (plain : key ≠ [] ∧ ' ' ∉ key) :
    matchExtra (option.word ++ ' ' :: (key ++ ' ' :: quote :: rest)) =
      (quoted quote rest).map fun found => (option, key, found) := by
  have unspaced : arguments ('a' :: ' ' :: (key ++ ' ' :: quote :: rest)) = none := arguments_unspaced (by decide)
  cases option <;>
    simp [matchExtra, matchOption, Flag.word, arguments_rendered plain, unspaced, Function.comp_def]

theorem matchExtra_space : matchExtra (' ' :: line) = none := by
  simp [matchExtra, matchOption, Flag.word]

theorem arguments_ends {content : Text} (found : arguments line = some (key, content, rest)) :
    ending quote content ≠ backslash := by
  rw [arguments] at found
  split at found
  · cases found
  · split at found
    · cases found
    · rcases Option.map_eq_some_iff.mp found with ⟨_, text, same⟩
      cases same
      exact ending_quoted text

theorem matchOption_ends {found : Flag} {content : Text}
    (matched : matchOption line option = some (found, key, content, rest)) : ending quote content ≠ backslash := by
  rw [matchOption] at matched
  split at matched
  · rcases Option.map_eq_some_iff.mp matched with ⟨_, text, same⟩
    cases same
    exact arguments_ends text
  · cases matched

theorem matchExtra_ends {content : Text} (found : matchExtra line = some (option, key, content, rest)) :
    ending quote content ≠ backslash := by
  simp only [matchExtra, Option.or_eq_some_iff] at found
  rcases found with first | ⟨_, second | ⟨_, third⟩⟩
  · exact matchOption_ends first
  · exact matchOption_ends second
  · exact matchOption_ends third

theorem extract_ends : ∀ extra ∈ (extract fuel line).1, ending quote extra.2.2 ≠ backslash := by
  fun_induction extract fuel line with
  | case1 => exact fun _ mem => absurd mem List.not_mem_nil
  | case2 fuel line option key content rest matched extras left later ih =>
    rw [later] at ih
    exact List.forall_mem_cons.mpr ⟨matchExtra_ends matched, ih⟩
  | case3 => exact fun _ mem => absurd mem List.not_mem_nil
  | case4 fuel c line extras left later _ ih =>
    rw [later] at ih
    exact ih

theorem extract_rendered (plain : ∀ x ∈ extras, x.key ≠ [] ∧ ' ' ∉ x.key)
    (open_ : ∀ x ∈ extras, ending quote x.content ≠ backslash) (enough : (render extras).length ≤ fuel) :
    extract fuel (render extras) =
      (extras.map fun x => (x.option, x.key, x.content), List.replicate extras.length ' ') := by
  induction extras generalizing fuel with
  | nil => cases fuel <;> rfl
  | cons x extras ih =>
    rw [List.forall_mem_cons] at plain open_
    simp only [render, List.length_append, List.length_cons] at enough
    obtain ⟨fuel, rfl⟩ : ∃ more, fuel = more + 2 := ⟨fuel - 2, by omega⟩
    have later := @ih fuel plain.2 open_.2 (by omega)
    simp only [render, extract, matchExtra_rendered plain.1, quoted_guarded guarded_content open_.1, Option.map_some,
      matchExtra_space, later]
    rfl

end Matches

section Decoding

theorem escape_cons : escape special (c :: t) = if c ∈ special then backslash :: c :: escape special t else c :: escape special t := by
  rw [escape, List.flatMap_cons, ← escape]
  split <;> rfl

theorem head_escape (inside : c ∈ special) (other : c ≠ backslash) : (escape special t).head? ≠ some c := by
  rcases t with _ | ⟨d, t⟩
  · nofun
  · rw [escape_cons]
    split <;> grind

theorem unescapeQuotes_escape : unescapeQuotes (escape [quote] t) = t := by
  induction t with
  | nil => rfl
  | cons c t ih =>
    have next : (escape [quote] t).head? ≠ some quote := head_escape (by simp) (by decide)
    rw [escape_cons]
    split <;> simp_all [unescapeQuotes, show quote ≠ backslash by decide]

theorem escape_eq_iff : escape [quote, ','] t = t ↔ quote ∉ t ∧ ',' ∉ t := by
  induction t with
  | nil => simp [escape]
  | cons c t ih =>
    have apart : quote ≠ backslash ∧ ',' ≠ backslash := by decide
    rw [escape_cons]
    split <;> grind

theorem unescapeComma_iff : unescapeComma (escape [quote, ','] t) = t ↔ quote ∉ t ∧ t.count ',' ≤ 1 := by
  induction t with
  | nil => simp [escape, unescapeComma]
  | cons c t ih =>
    have next : (escape [quote, ','] t).head? ≠ some ',' := head_escape (by simp) (by decide)
    have apart : quote ≠ backslash ∧ ',' ≠ backslash ∧ quote ≠ ',' := by decide
    rw [escape_cons]
    by_cases comma : c = ','
    · have none_left : t.count ',' ≤ 0 ↔ ',' ∉ t := by rw [Nat.le_zero, List.count_eq_zero]
      subst comma
      simp [unescapeComma, escape_eq_iff, apart.2.2, none_left]
    · by_cases quotes : c = quote
      · subst quotes
        simp [unescapeComma, apart.2.2, apart.1.symm]
      · simp [unescapeComma, comma, quotes, next, ih, Ne.symm quotes]

theorem split_escape (inside : ',' ∈ special) : split p (escape special t ++ rest) =
    (escape special t ++ (split (ending p t) rest).1, (split (ending p t) rest).2) := by
  induction t generalizing p with
  | nil => rfl
  | cons c t ih =>
    rw [escape_cons, ending_cons]
    split
    · simp [split, ih, show backslash ≠ ',' by decide]
    · next plain =>
      have other : c ≠ ',' := fun same => plain (same ▸ inside)
      simp [split, ih, other]

theorem split_encodeList {element : Text} (start : p ≠ backslash)
    (ends : ∀ e ∈ element :: elements, e.getLast? ≠ some backslash) :
    split p (encodeList (element :: elements)) = (escape [quote, ','] element, elements.map (escape [quote, ','])) := by
  have inside : ',' ∈ [quote, ','] := by simp
  induction elements generalizing p element with
  | nil =>
    have alone := @split_escape p element [] _ inside
    simpa [split, encodeList] using alone
  | cons next elements ih =>
    rw [List.forall_mem_cons] at ends
    have first : ending p element ≠ backslash := (ending_ne_iff start).mpr ends.1
    rw [encodeList, split_escape inside, split, ih (by decide) ends.2]
    · simp [first]
    · simp

theorem map_unescapeComma_iff : (elements.map (escape [quote, ','])).map unescapeComma = elements ↔
    ∀ e ∈ elements, quote ∉ e ∧ e.count ',' ≤ 1 := by
  induction elements with
  | nil => simp
  | cons element elements ih => simp only [List.map_cons, List.cons.injEq, unescapeComma_iff, ih, List.forall_mem_cons]

theorem escape_eq_nil : escape special t = [] ↔ t = [] := by
  rcases t with _ | ⟨c, t⟩
  · simp [escape]
  · rw [escape_cons]
    split <;> simp

theorem rdropWhile_escape_iff : (elements.map (escape special)).rdropWhile (· = []) =
    elements.map (escape special) ↔ elements.getLast? ≠ some [] := by
  rw [List.rdropWhile_eq_self_iff]
  rcases List.eq_nil_or_concat elements with rfl | ⟨elements, element, rfl⟩
  · simp
  · simp [escape_eq_nil]

theorem splitList_encodeList_iff (ends : ∀ e ∈ elements, e.getLast? ≠ some backslash) :
    splitList (encodeList elements) = elements ↔ elements ≠ [] ∧ (elements.length = 1 ∨ elements.getLast? ≠ some []) ∧
      ∀ e ∈ elements, quote ∉ e ∧ e.count ',' ≤ 1 := by
  rcases elements with _ | ⟨element, _ | ⟨next, elements⟩⟩
  · simp [splitList, encodeList, split]
  · rw [splitList, split_encodeList (by decide) ends]
    simpa using @map_unescapeComma_iff [element]
  · have whole : splitList (encodeList (element :: next :: elements)) =
        (((element :: next :: elements).map (escape [quote, ','])).rdropWhile (· = [])).map unescapeComma := by
      rw [splitList, split_encodeList (by decide) ends]
      rfl
    rw [whole, ← map_unescapeComma_iff, ← @rdropWhile_escape_iff [quote, ',']]
    constructor
    · intro same
      have kept := (List.rdropWhile_prefix (· = []) ((element :: next :: elements).map (escape [quote, ',']))).eq_of_length
        (by simpa using congrArg List.length same)
      exact ⟨List.cons_ne_nil _ _, .inr kept, by rw [kept] at same; exact same⟩
    · rintro ⟨_, kept, same⟩
      rw [kept.resolve_left (by simp)]
      exact same

def Extra.Ended : Extra → Prop
  | .string _ _ text => text.getLast? ≠ some backslash
  | .list _ elements => ∀ element ∈ elements, element.getLast? ≠ some backslash

theorem Extra.Faithful.ended (faithful : x.Faithful) : x.Ended := by
  cases x with
  | string long key text => exact faithful
  | list key elements => exact fun element mem => (faithful.2.2 element mem).1

theorem ending_encodeList (start : p ≠ backslash)
    (ends : ∀ e ∈ elements, e.getLast? ≠ some backslash) : ending p (encodeList elements) ≠ backslash := by
  fun_induction encodeList elements generalizing p with
  | case1 => exact start
  | case2 element =>
    rw [ending_escape, ending_ne_iff start]
    exact ends element List.mem_cons_self
  | case3 element elements _ ih =>
    rw [ending_append, ending_cons]
    exact ih (by decide) fun e mem => ends e (List.mem_cons_of_mem _ mem)

theorem Extra.Ended.content (ended : x.Ended) : ending quote x.content ≠ backslash := by
  cases x with
  | string long key text =>
    rw [Extra.content, ending_escape, ending_ne_iff (by decide)]
    exact ended
  | list key elements => exact ending_encodeList (by decide) ended

theorem value_ended {content : Text} (ends : ending quote content ≠ backslash)
    (same : value option content = x.value) : x.Ended := by
  rw [value] at same
  split at same
  · cases x with
    | string long key text => cases same
    | list key elements =>
      cases same
      exact splitList_ends ((ending_ne_iff (by decide)).mpr ((ending_ne_iff (by decide)).mp ends))
  · cases x with
    | string long key text =>
      cases same
      exact (ending_ne_iff (by decide)).mp (ending_unescapeQuotes ▸ ends)
    | list key elements => cases same

theorem value_content_iff (ended : x.Ended) : value x.option x.content = x.value ↔ x.Faithful := by
  cases x with
  | string long key text =>
    have short : (Extra.string long key text).option ≠ .esa := by cases long <;> nofun
    exact iff_of_true ((if_neg short).trans (congrArg Value.string unescapeQuotes_escape)) ended
  | list key elements =>
    simp only [value, Extra.option, if_pos, Extra.content, Extra.value, Value.list.injEq, Extra.Faithful,
      splitList_encodeList_iff ended]
    grind [Extra.Ended]

end Decoding

/-- Extras come back from the line that they are written into exactly if each of them is one that can. -/
theorem parse_render_iff (plain : ∀ x ∈ extras, x.key ≠ [] ∧ ' ' ∉ x.key) :
    parse (render extras) = (extras.map fun x => (x.key, x.value), List.replicate extras.length ' ') ↔
      ∀ x ∈ extras, x.Faithful := by
  by_cases ended : ∀ x ∈ extras, x.Ended
  · rw [parse, extract_rendered plain (fun x mem => (ended x mem).content) le_rfl]
    simp only [List.map_map, Prod.mk.injEq, and_true, List.map_inj_left, Function.comp_apply, true_and]
    exact forall₂_congr fun x mem => value_content_iff (ended x mem)
  · apply iff_of_false
    · intro parsed
      apply ended
      intro x mem
      have found : (x.key, x.value) ∈ (parse (render extras)).1 := by
        rw [parsed]
        exact List.mem_map_of_mem mem
      rcases List.mem_map.mp found with ⟨extra, inside, same⟩
      exact value_ended (extract_ends extra inside) (Prod.mk.inj same).2
    · exact fun faithful => ended fun x mem => (faithful x mem).ended

theorem parse_render_commas : parse (render [.list "k".toList ["a,b".toList, [], "c".toList]]) =
    ([("k".toList, .list ["a,b".toList, [], "c".toList])], [' ']) := by
  exact (parse_render_iff (by simp [Extra.key])).mpr (by simp [Extra.Faithful, quote, backslash])

/-- An element with two commas comes back with the second one still escaped, and a list of one quote with a backslash. -/
theorem parse_render_keeps_escapes :
    parse (render [.list "k".toList ["a,b,c".toList]]) =
        ([("k".toList, .list ["a,b".toList ++ backslash :: ",c".toList])], [' ']) ∧
      parse (render [.list "k".toList [[quote]]]) = ([("k".toList, .list [[backslash, quote]])], [' ']) := by
  decide

end SocketListener
