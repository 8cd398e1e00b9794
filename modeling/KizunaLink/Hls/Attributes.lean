import KizunaLink.Hls.M3u8

/-!
# Looking up an attribute

`extract_attr_str` searches the line for the key behind a colon, and then behind a comma,
instead of reading the attributes one by one.  It finds the value of the attribute with
that name if the name is that of the first attribute, or if no value that it passes has
the same text in it.  Where one has, what stands there is read, and the lookup is right
only if that happens to be the value.
-/

set_option autoImplicit false

namespace KizunaLink.Hls.M3u8

open KizunaLink.Lib List

def findBack (needle text : Chars) : Option Chars := (find needle text).map Prod.snd

theorem findBack_of_starts {needle text : Chars} (here : needle <+: text) :
    findBack needle text = some (text.drop needle.length) := by
  cases text with
  | nil => simp [findBack, find, prefix_nil.mp here]
  | cons char rest =>
    rw [findBack, find, if_pos (List.isPrefixOf_iff_prefix.mpr here)]
    rfl

theorem findBack_cons {needle rest : Chars} {char : Char} (not : ¬ needle <+: char :: rest) :
    findBack needle (char :: rest) = findBack needle rest := by
  rw [findBack, find, if_neg fun here => not (List.isPrefixOf_iff_prefix.mp here), Option.map_map]
  rfl

theorem findBack_append_of_head {first : Char} {needle : Chars} (piece rest : Chars)
    (missing : first ∉ piece) :
    findBack (first :: needle) (piece ++ rest) = findBack (first :: needle) rest := by
  induction piece with
  | nil => rfl
  | cons char piece ih =>
    rw [mem_cons, not_or] at missing
    rw [cons_append, findBack_cons fun here => missing.1 (cons_prefix_cons.mp here).1]
    exact ih missing.2

theorem suffix_of_findBack {needle text back : Chars} (found : findBack needle text = some back) :
    back <:+ text := by
  induction text with
  | nil =>
    obtain ⟨split, some, rfl⟩ := Option.map_eq_some_iff.mp found
    simp only [find, Option.ite_none_right_eq_some, Option.some.injEq] at some
    rw [← some.2]
  | cons char text ih =>
    by_cases here : needle <+: char :: text
    · rw [findBack_of_starts here] at found
      cases found
      exact drop_suffix _ _
    · rw [findBack_cons here] at found
      exact (ih found).trans (suffix_cons char text)

theorem prefix_of_prefix_append {needle back rest : Chars} {stop : Char} (missing : stop ∉ needle)
    (ends : rest = [] ∨ ∃ more, rest = stop :: more) (here : needle <+: back ++ rest) :
    needle <+: back := by
  rcases ends with rfl | ⟨more, rfl⟩
  · rwa [append_nil] at here
  · refine prefix_of_prefix_length_le here (prefix_append back _) (not_lt.mp fun long => missing ?_)
    -- a longer needle would go over the stop
    have stopped := here.getElem long
    rw [getElem_append_right le_rfl] at stopped
    simp only [Nat.sub_self, getElem_cons_zero] at stopped
    rw [← stopped]
    exact getElem_mem long

/-- The key is found in a text that ends at a character which it does not have, or behind it. -/
theorem findBack_append_of_stop {first : Char} {needle : Chars} {stop : Char} (text : Chars)
    {rest : Chars} (missing : stop ∉ first :: needle)
    (ends : rest = [] ∨ ∃ more, rest = stop :: more) :
    findBack (first :: needle) (text ++ rest) =
      ((findBack (first :: needle) text).map (· ++ rest)).or (findBack (first :: needle) rest) := by
  induction text with
  | nil => simp [findBack, find]
  | cons char text ih =>
    by_cases here : first :: needle <+: char :: text
    · rw [findBack_of_starts here, findBack_of_starts (here.trans (prefix_append _ _)),
        drop_append_of_le_length here.length_le]
      rfl
    · rw [findBack_cons here, cons_append, findBack_cons, ih]
      exact fun long => here (prefix_of_prefix_append missing ends long)

theorem find_quote {text : Chars} (closed : '"' ∉ text) (rest : Chars) :
    find ['"'] (text ++ '"' :: rest) = some (text, rest) := by
  induction text with
  | nil => rfl
  | cons char text ih =>
    have other : ¬ ['"'] <+: char :: (text ++ '"' :: rest) := by
      intro here
      exact closed ((cons_prefix_cons.mp here).1 ▸ mem_cons_self)
    rw [cons_append, find, if_neg fun here => other (List.isPrefixOf_iff_prefix.mp here),
      ih fun inside => closed (mem_cons_of_mem _ inside)]
    rfl

/-! ## Attribute lists -/

/-- A value, as it stands between its quotes or without any. -/
inductive AttrValue where
  | quoted (text : Chars) (closed : '"' ∉ text)
  | bare (text : Chars) (single : ',' ∉ text) (unquoted : '"' ∉ text) (trimmed : trim text = text)

def AttrValue.text : AttrValue → Chars
  | .quoted text _ => text
  | .bare text _ _ _ => text

def AttrValue.render : AttrValue → Chars
  | .quoted text _ => '"' :: text ++ ['"']
  | .bare text _ _ _ => text

/-- The characters of names are none of those that structure the line. -/
def IsName (name : Chars) : Prop := ',' ∉ name ∧ ':' ∉ name ∧ '=' ∉ name ∧ '"' ∉ name

instance (name : Chars) : Decidable (IsName name) :=
  inferInstanceAs (Decidable (',' ∉ name ∧ ':' ∉ name ∧ '=' ∉ name ∧ '"' ∉ name))

structure Attribute where
  name : Chars
  value : AttrValue
  named : IsName name

def Attribute.render (attr : Attribute) : Chars := attr.name ++ '=' :: attr.value.render

/-- The attributes behind the first one, each behind its comma. -/
def renderTail (attrs : List Attribute) : Chars := attrs.flatMap fun attr => ',' :: attr.render

def renderList : List Attribute → Chars
  | [] => []
  | first :: rest => first.render ++ renderTail rest

def renderLine (tag : Chars) (attrs : List Attribute) : Chars := tag ++ ':' :: renderList attrs

/-- The key as it is searched behind a colon or a comma. -/
def needle (separator : Char) (key : Chars) : Chars := separator :: (key ++ ['='])

theorem renderTail_cons (attr : Attribute) (rest : List Attribute) :
    renderTail (attr :: rest) = ',' :: (attr.render ++ renderTail rest) := rfl

theorem renderTail_head (attrs : List Attribute) :
    renderTail attrs = [] ∨ ∃ rest, renderTail attrs = ',' :: rest := by
  cases attrs with
  | nil => exact .inl rfl
  | cons attr rest => exact .inr ⟨_, renderTail_cons attr rest⟩

theorem eq_of_prefix_name {key name rest : Chars} (keyNamed : '=' ∉ key) (named : '=' ∉ name)
    (here : key ++ ['='] <+: name ++ '=' :: rest) : key = name := by
  induction key generalizing name with
  | nil =>
    cases name with
    | nil => rfl
    | cons char name =>
      rw [nil_append, cons_append, cons_prefix_cons] at here
      exact absurd (here.1 ▸ mem_cons_self) named
  | cons char key ih =>
    cases name with
    | nil =>
      rw [cons_append, nil_append, cons_prefix_cons] at here
      exact absurd (here.1 ▸ mem_cons_self) keyNamed
    | cons other name =>
      rw [cons_append, cons_append, cons_prefix_cons] at here
      rw [here.1, ih (fun inside => keyNamed (mem_cons_of_mem _ inside))
        (fun inside => named (mem_cons_of_mem _ inside)) here.2]

theorem needle_prefix_iff {separator : Char} {key : Chars} (named : IsName key) (attr : Attribute)
    (rest : Chars) :
    needle separator key <+: separator :: (attr.render ++ rest) ↔ key = attr.name := by
  rw [needle, cons_prefix_cons, Attribute.render, append_assoc, cons_append]
  constructor
  · intro here
    exact eq_of_prefix_name named.2.2.1 attr.named.2.2.1 here.2
  · intro same
    rw [same]
    refine ⟨rfl, attr.value.render ++ rest, ?_⟩
    rw [append_assoc]
    rfl

theorem findBack_named {separator : Char} (attr : Attribute) (rest : Chars) :
    findBack (needle separator attr.name) (separator :: (attr.render ++ rest)) =
      some (attr.value.render ++ rest) := by
  have split : separator :: (attr.render ++ rest) =
      needle separator attr.name ++ (attr.value.render ++ rest) := by
    simp [Attribute.render, needle]
  rw [findBack_of_starts ((needle_prefix_iff attr.named attr rest).mpr rfl), split, drop_left]

theorem findBack_needle_append {separator : Char} {key : Chars} (piece rest : Chars)
    (missing : separator ∉ piece) :
    findBack (needle separator key) (piece ++ rest) = findBack (needle separator key) rest :=
  findBack_append_of_head piece rest missing

/-- What `extract_attr_str` makes of the text behind the key. -/
def readValue : Chars → Option Chars
  | '"' :: stripped => (find ['"'] stripped).map Prod.fst
  | rest => some (trim (beforeFirst ',' rest))

theorem extractAttrStr_eq (line : Chars) (key : String) :
    extractAttrStr line key =
      (((findBack (needle ':' key.toList) line).map readValue).or
        ((findBack (needle ',' key.toList) line).map readValue)).join := by
  rw [extractAttrStr, findBack, findBack, needle, needle]
  cases find (':' :: (key.toList ++ ['='])) line with
  | some found => rfl
  | none => cases find (',' :: (key.toList ++ ['='])) line <;> rfl

theorem readValue_of_unquoted {rest : Chars} (unquoted : ∀ stripped, rest ≠ '"' :: stripped) :
    readValue rest = some (trim (beforeFirst ',' rest)) := by
  unfold readValue
  split
  · exact absurd rfl (unquoted _)
  · rfl

theorem beforeFirst_append {text : Chars} {separator : Char} {rest : Chars}
    (ends : rest = [] ∨ ∃ back, rest = separator :: back) :
    beforeFirst separator (text ++ rest) = beforeFirst separator text := by
  rw [beforeFirst, beforeFirst, takeWhile_append]
  split
  · rename_i all
    have whole := (takeWhile_sublist _).eq_of_length all
    rcases ends with rfl | ⟨back, rfl⟩
    · rw [takeWhile_nil, append_nil, whole]
    · rw [takeWhile_cons_of_neg (by simp), append_nil, whole]
  · rfl

theorem beforeFirst_of_notMem {text : Chars} {separator : Char} (single : separator ∉ text) :
    beforeFirst separator text = text := by
  have inside : ∀ char ∈ text, decide (char ≠ separator) = true := by
    intro char member
    exact decide_eq_true fun same => single (same ▸ member)
  simpa [beforeFirst] using @takeWhile_append_of_pos _ _ _ [] inside

theorem readValue_render (value : AttrValue) (rest : List Attribute) :
    readValue (value.render ++ renderTail rest) = some value.text := by
  cases value with
  | quoted text closed =>
    have split : (AttrValue.quoted text closed).render ++ renderTail rest =
        '"' :: (text ++ '"' :: renderTail rest) := by
      simp [AttrValue.render]
    rw [split, readValue, find_quote closed]
    rfl
  | bare text single unquoted trimmed =>
    have opens : ∀ stripped, text ++ renderTail rest ≠ '"' :: stripped := by
      intro stripped same
      cases text with
      | nil =>
        rcases renderTail_head rest with ends | ⟨back, continues⟩
        · simp [ends] at same
        · simp [continues] at same
      | cons char text =>
        rw [cons_append, List.cons.injEq] at same
        exact unquoted (same.1 ▸ mem_cons_self)
    change readValue (text ++ renderTail rest) = some text
    rw [readValue_of_unquoted opens, beforeFirst_append (renderTail_head rest),
      beforeFirst_of_notMem single, trimmed]

/-! ## Values that have the key in them -/

/-- What is read behind a key that stands in a value: a closing quote right behind it is taken
for an opening one, and any other belongs to what is read. -/
def AttrValue.readBehind (value : AttrValue) (back tail : Chars) : Option Chars :=
  match value, back with
  | .quoted _ _, [] => (find ['"'] tail).map Prod.fst
  | .quoted _ _, back => some (trim (beforeFirst ',' (back ++ ['"'])))
  | .bare _ _ _ _, back => some (trim back)

/-- What is read in the first value that has the key behind the separator, up to an attribute
that stops the search. -/
def lookAlikeIn (separator : Char) (key : Chars) (stops : Attribute → Bool) :
    List Attribute → Option (Option Chars)
  | [] => none
  | attr :: rest =>
    if stops attr then none
    else
      ((findBack (needle separator key) attr.value.text).map
        (attr.value.readBehind · (renderTail rest))).or (lookAlikeIn separator key stops rest)

/-- What is taken for the value of the key, if it is no attribute: first behind a colon, in any
value, then behind a comma, in the values before the attribute with that name. -/
def lookAlike (key : Chars) (attrs : List Attribute) : Option (Option Chars) :=
  if attrs.head?.any (·.name = key) then none
  else (lookAlikeIn ':' key (fun _ => false) attrs).or (lookAlikeIn ',' key (·.name = key) attrs)

section Passing

variable {separator : Char} {key : Chars} (named : IsName key)
  (separates : separator = ':' ∨ separator = ',') (rest : List Attribute)

include named separates

/-- A value ends at a quote or at a comma, over which the key does not reach. -/
theorem read_value (value : AttrValue) :
    (findBack (needle separator key) (value.render ++ renderTail rest)).map readValue =
      ((findBack (needle separator key) value.text).map
        (value.readBehind · (renderTail rest))).or
        ((findBack (needle separator key) (renderTail rest)).map readValue) := by
  cases value with
  | quoted text closed =>
    have quote : '"' ∉ needle separator key := by
      rcases separates with rfl | rfl <;> simp [needle, named.2.2.2]
    have not_quote : separator ∉ ['"'] := by
      rcases separates with rfl | rfl <;> decide
    have split : (AttrValue.quoted text closed).render ++ renderTail rest =
        ['"'] ++ (text ++ '"' :: renderTail rest) := by
      simp [AttrValue.render]
    have behind : findBack (needle separator key) ('"' :: renderTail rest) = _ :=
      findBack_needle_append ['"'] (renderTail rest) not_quote
    rw [split, findBack_needle_append _ _ not_quote, needle,
      findBack_append_of_stop text quote (.inr ⟨_, rfl⟩), ← needle, behind, Option.map_or,
      Option.map_map]
    congr 1
    refine Option.map_congr fun back found => ?_
    have inside : '"' ∉ back := fun member => closed ((suffix_of_findBack found).subset member)
    cases back with
    | nil => rfl
    | cons char back =>
      have opens : ∀ stripped, char :: back ++ '"' :: renderTail rest ≠ '"' :: stripped := by
        intro stripped same
        exact inside ((List.cons.inj same).1 ▸ mem_cons_self)
      have quoted : char :: back ++ '"' :: renderTail rest =
          char :: back ++ ['"'] ++ renderTail rest := by simp
      rw [Function.comp_apply, readValue_of_unquoted opens, quoted,
        beforeFirst_append (renderTail_head rest)]
      rfl
  | bare text single unquoted trimmed =>
    rcases separates with rfl | rfl
    · have comma : ',' ∉ needle ':' key := by simp [needle, named.1]
      change (findBack _ (text ++ renderTail rest)).map readValue = _
      rw [needle, findBack_append_of_stop text comma (renderTail_head rest), ← needle,
        Option.map_or, Option.map_map]
      congr 1
      refine Option.map_congr fun back found => ?_
      have inside := (suffix_of_findBack found).subset
      have opens : ∀ stripped, back ++ renderTail rest ≠ '"' :: stripped := by
        intro stripped same
        cases back with
        | nil =>
          rcases renderTail_head rest with ends | ⟨more, continues⟩
          · simp [ends] at same
          · simp [continues] at same
        | cons char back => exact unquoted (inside ((List.cons.inj same).1 ▸ mem_cons_self))
      rw [Function.comp_apply, readValue_of_unquoted opens,
        beforeFirst_append (renderTail_head rest),
        beforeFirst_of_notMem fun member => single (inside member)]
      rfl
    · have none : findBack (needle ',' key) text = none := by
        have passed := @findBack_needle_append ',' key text [] single
        rw [append_nil] at passed
        exact passed
      change (findBack _ (text ++ renderTail rest)).map readValue = _
      rw [findBack_needle_append text _ single, AttrValue.text, none]
      rfl

theorem read_render (attr : Attribute) :
    (findBack (needle separator key) (attr.render ++ renderTail rest)).map readValue =
      ((findBack (needle separator key) attr.value.text).map
        (attr.value.readBehind · (renderTail rest))).or
        ((findBack (needle separator key) (renderTail rest)).map readValue) := by
  have name_free : separator ∉ attr.name ++ ['='] := by
    rcases separates with rfl | rfl
    · simp [attr.named.2.1]
    · simp [attr.named.1]
  have split : attr.render ++ renderTail rest =
      (attr.name ++ ['=']) ++ (attr.value.render ++ renderTail rest) := by
    simp [Attribute.render]
  rw [split, findBack_needle_append _ _ name_free]
  exact read_value named separates rest attr.value

end Passing

theorem read_colon_renderTail {key : Chars} (named : IsName key) (attrs : List Attribute) :
    (findBack (needle ':' key) (renderTail attrs)).map readValue =
      lookAlikeIn ':' key (fun _ => false) attrs := by
  induction attrs with
  | nil => rfl
  | cons attr rest ih =>
    have comma : findBack (needle ':' key) (',' :: (attr.render ++ renderTail rest)) =
        findBack (needle ':' key) (attr.render ++ renderTail rest) :=
      findBack_needle_append [','] _ (by decide)
    rw [renderTail_cons, comma, read_render named (.inl rfl) rest attr, ih]
    rfl

theorem read_comma_renderTail {key : Chars} (named : IsName key) (attrs : List Attribute) :
    (findBack (needle ',' key) (renderTail attrs)).map readValue =
      (lookAlikeIn ',' key (·.name = key) attrs).or
        ((attrs.find? (·.name = key)).map fun attr => some attr.value.text) := by
  induction attrs with
  | nil => rfl
  | cons attr rest ih =>
    by_cases same : attr.name = key
    · rw [renderTail_cons, ← same, findBack_named, Option.map_some, readValue_render]
      simp [lookAlikeIn]
    · have not_here : ¬ needle ',' key <+: ',' :: (attr.render ++ renderTail rest) :=
        fun here => same ((needle_prefix_iff named attr _).mp here).symm
      rw [renderTail_cons, findBack_cons not_here, read_render named (.inr rfl) rest attr, ih,
        List.find?_cons_of_neg (by simp [same]), lookAlikeIn, if_neg (by simp [same]),
        Option.or_assoc]

theorem findBack_renderLine {tag key : Chars} {separator : Char} (attrs : List Attribute)
    (plain : separator ∉ tag) :
    findBack (needle separator key) (renderLine tag attrs) =
      findBack (needle separator key) (':' :: renderList attrs) :=
  findBack_needle_append tag _ plain

theorem findBack_renderLine_nil {tag key : Chars} {separator : Char} (plain : separator ∉ tag) :
    findBack (needle separator key) (renderLine tag []) = none := by
  rw [findBack_renderLine _ plain]
  refine (findBack_cons ?_).trans rfl
  rintro ⟨back, same⟩
  simp [needle, renderList] at same

section Lookup

variable {tag : Chars} {key : String} {attrs : List Attribute}

theorem extractAttrStr_first (colon : ':' ∉ tag) {first : Attribute} {rest : List Attribute}
    (same : first.name = key.toList) :
    extractAttrStr (renderLine tag (first :: rest)) key = some first.value.text := by
  have found : findBack (needle ':' key.toList) (renderLine tag (first :: rest)) =
      some (first.value.render ++ renderTail rest) := by
    rw [findBack_renderLine _ colon, ← same]
    exact findBack_named first (renderTail rest)
  rw [extractAttrStr_eq, found]
  exact readValue_render first.value rest

/-- Where the key is not the first name, the line is searched as if a comma stood before the
first attribute. -/
theorem findBack_renderLine_other (named : IsName key.toList) {separator : Char}
    (plain : separator ∉ tag) {first : Attribute} {rest : List Attribute}
    (other : first.name ≠ key.toList) :
    findBack (needle separator key.toList) (renderLine tag (first :: rest)) =
      findBack (needle separator key.toList) (renderTail (first :: rest)) := by
  have passed : ∀ char, findBack (needle separator key.toList)
      (char :: (first.render ++ renderTail rest)) =
        findBack (needle separator key.toList) (first.render ++ renderTail rest) := by
    intro char
    by_cases same : char = separator
    · rw [same]
      exact findBack_cons fun here => other ((needle_prefix_iff named first _).mp here).symm
    · exact findBack_needle_append [char] _ (by simpa using Ne.symm same)
  rw [findBack_renderLine _ plain, renderTail_cons, passed, renderList, passed]

/-- The value of the attribute with that name is found, or there is none, exactly if nothing
else is read in its place. -/
theorem extractAttrStr_renderLine_iff (named : IsName key.toList) (colon : ':' ∉ tag)
    (comma : ',' ∉ tag) :
    extractAttrStr (renderLine tag attrs) key =
        (attrs.find? (·.name = key.toList)).map (·.value.text) ↔
      lookAlike key.toList attrs = none ∨
        lookAlike key.toList attrs =
          some ((attrs.find? (·.name = key.toList)).map (·.value.text)) := by
  cases attrs with
  | nil =>
    rw [extractAttrStr_eq, findBack_renderLine_nil colon, findBack_renderLine_nil comma]
    exact iff_of_true rfl (.inl rfl)
  | cons first rest =>
    by_cases same : first.name = key.toList
    · rw [extractAttrStr_first colon same, List.find?_cons_of_pos (by simp [same])]
      exact iff_of_true rfl (.inl (by simp [lookAlike, same]))
    · have searched : extractAttrStr (renderLine tag (first :: rest)) key =
          ((lookAlike key.toList (first :: rest)).or
            (((first :: rest).find? (·.name = key.toList)).map fun attr =>
              some attr.value.text)).join := by
        rw [extractAttrStr_eq, findBack_renderLine_other named colon same,
          findBack_renderLine_other named comma same, read_colon_renderTail named,
          read_comma_renderTail named, lookAlike, if_neg (by simpa using same), Option.or_assoc]
      rw [searched]
      cases lookAlike key.toList (first :: rest) with
      | none => cases (first :: rest).find? (·.name = key.toList) <;> simp
      | some read => simp

end Lookup

/-- `#EXT-X-MEDIA:NAME="<text>",URI="c"`. -/
def namedRendition (text : Chars) (closed : '"' ∉ text) : List Attribute :=
  [⟨"NAME".toList, .quoted text closed, by decide⟩,
    ⟨"URI".toList, .quoted ['c'] (by decide), by decide⟩]

/-- Commas, colons and equals signs in a value do no harm as long as they do not spell the key,
nor does a value that spells the attribute as it is. -/
theorem uri_behind_name :
    extractAttrStr "#EXT-X-MEDIA:NAME=\"a,b:c=d\",URI=\"c\"".toList "URI" = some ['c'] ∧
      extractAttrStr "#EXT-X-MEDIA:NAME=\"a:URI=c,x\",URI=\"c\"".toList "URI" = some ['c'] :=
  ⟨(@extractAttrStr_renderLine_iff "#EXT-X-MEDIA".toList "URI"
      (namedRendition "a,b:c=d".toList (by decide)) (by decide) (by decide) (by decide)).mpr
      (.inl (by decide +kernel)),
    (@extractAttrStr_renderLine_iff "#EXT-X-MEDIA".toList "URI"
      (namedRendition "a:URI=c,x".toList (by decide)) (by decide) (by decide) (by decide)).mpr
      (.inr (by decide +kernel))⟩

/-- A name that spells the key behind a comma or a colon is taken for the attribute, where the
list has it behind the name and where it has none. -/
theorem value_taken_as_attribute :
    renderLine "#EXT-X-MEDIA".toList (namedRendition "a,URI=b".toList (by decide)) =
        "#EXT-X-MEDIA:NAME=\"a,URI=b\",URI=\"c\"".toList ∧
      extractAttrStr "#EXT-X-MEDIA:NAME=\"a,URI=b\",URI=\"c\"".toList "URI" =
        some "b\"".toList ∧
      extractAttrStr "#EXT-X-MEDIA:NAME=\"a:URI=b\",URI=\"c\"".toList "URI" =
        some "b\"".toList ∧
      extractAttrStr "#EXT-X-MEDIA:NAME=\"a,LANGUAGE=b\",URI=\"c\"".toList "LANGUAGE" =
        some "b\"".toList := by
  refine ⟨?_, ?_, ?_, ?_⟩
  · decide +kernel
  · decide +kernel
  · decide +kernel
  · decide +kernel

end KizunaLink.Hls.M3u8
