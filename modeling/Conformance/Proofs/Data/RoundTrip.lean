import Conformance.Proofs.Data.JsonParts
import Mathlib.Data.List.DropRight
import Mathlib.Data.List.Nodup

/-!
# Documents in JSON

* `Kept` : data that JSON keeps: no number but integers of sixty-four bits, every mapping with
  different names, and a limited depth;
* `Reads`, `reads_of_kept` : they are read back from their lines, whatever follows;
* `kept_record`, `kept_list`, `kept_int32`, `kept_word64` : forms that are kept;
* `Data.ofJson?_pretty` : a whole text is read back.
-/

namespace Conformance

namespace Json

variable {d : Data} {c : Char} {cs rest : List Char} {depth level fuel : Nat} {items : List Data}
  {entries : List (Key × Data)}

/-- Data that JSON keeps, with at most `depth` lists and mappings inside each other. -/
inductive Kept : Nat → Data → Prop
  | null {depth : Nat} : Kept depth .null
  | bool {depth : Nat} (b : Bool) : Kept depth (.bool b)
  | int {depth : Nat} {i : Int} (exact : Exact i) : Kept depth (.int i)
  | text {depth : Nat} (s : String) : Kept depth (.text s)
  | list {depth : Nat} {items : List Data} (items_kept : ∀ d ∈ items, Kept depth d) :
    Kept (depth + 1) (.list items)
  | map {depth : Nat} {entries : List (Key × Data)} (named : ∀ e ∈ entries, ∃ s, e.1 = .name s)
    (nodup : (entries.map Prod.fst).Nodup) (values_kept : ∀ e ∈ entries, Kept depth e.2) :
    Kept (depth + 1) (.map entries)

/-- Data are read back from their lines. -/
def Reads (depth : Nat) (d : Data) : Prop :=
  ∀ level fuel rest, Stops rest → (writePretty level d).length ≤ fuel →
    readValue fuel depth (writePretty level d ++ rest) = some (d, rest)

/-! ## Blanks -/

theorem skipBlanks_cons (h : isBlank c = false) : skipBlanks (c :: cs) = c :: cs :=
  List.dropWhile_cons_of_neg (by simp [h])

theorem skipBlanks_newLine (level : Nat) (cs : List Char) :
    skipBlanks (newLine level ++ cs) = skipBlanks cs := by
  refine List.dropWhile_append_of_pos fun c hmem => ?_
  rcases List.mem_cons.mp hmem with rfl | hmem
  · rfl
  · rw [List.eq_of_mem_replicate hmem]
    rfl

theorem skipBlanks_skipBlanks (cs : List Char) : skipBlanks (skipBlanks cs) = skipBlanks cs :=
  List.dropWhile_idempotent isBlank cs

theorem readValue_skipBlanks (fuel depth : Nat) (cs : List Char) :
    readValue fuel depth (skipBlanks cs) = readValue fuel depth cs := by
  cases fuel with
  | zero => rfl
  | succ fuel => rw [readValue, readValue, skipBlanks_skipBlanks]

theorem readItems_skipBlanks (fuel depth : Nat) (cs : List Char) :
    readItems fuel depth (skipBlanks cs) = readItems fuel depth cs := by
  cases fuel with
  | zero => rfl
  | succ fuel => rw [readItems, readItems, readValue_skipBlanks]

theorem readValue_newLine (fuel depth level : Nat) (cs : List Char) :
    readValue fuel depth (newLine level ++ cs) = readValue fuel depth cs := by
  rw [← readValue_skipBlanks, skipBlanks_newLine, readValue_skipBlanks]

theorem readValue_space (fuel depth : Nat) (cs : List Char) :
    readValue fuel depth (' ' :: cs) = readValue fuel depth cs := by
  have hskip : skipBlanks (' ' :: cs) = skipBlanks cs := rfl
  rw [← readValue_skipBlanks, hskip, readValue_skipBlanks]

theorem readEntries_skipBlanks (fuel depth : Nat) (cs : List Char) :
    readEntries fuel depth (skipBlanks cs) = readEntries fuel depth cs := by
  cases fuel with
  | zero => rfl
  | succ fuel => rw [readEntries, readEntries, skipBlanks_skipBlanks]

theorem readEntries_newLine (fuel depth level : Nat) (cs : List Char) :
    readEntries fuel depth (newLine level ++ cs) = readEntries fuel depth cs := by
  rw [← readEntries_skipBlanks, skipBlanks_newLine, readEntries_skipBlanks]

/-! ## Scalars -/

theorem reads_null : Reads depth .null := by
  intro level fuel rest _ hfuel
  obtain _ | fuel := fuel
  · cases hfuel
  · rfl

theorem reads_bool (b : Bool) : Reads depth (.bool b) := by
  intro level fuel rest _ hfuel
  obtain _ | fuel := fuel
  · cases b <;> cases hfuel
  · cases b <;> rfl

theorem reads_text (s : String) : Reads depth (.text s) := by
  intro level fuel rest _ hfuel
  obtain _ | fuel := fuel
  · cases hfuel
  · show (readText ((s.toList.flatMap escapeChar ++ ['"']) ++ rest)).map _ = _
    rw [List.append_assoc]
    show (readText (s.toList.flatMap escapeChar ++ '"' :: rest)).map _ = _
    rw [readText_escape]
    exact congrArg (fun s => some (Data.text s, rest)) String.ofList_toList

/-- An integer starts with a digit or a sign. -/
theorem ne_of_number (hc : c.isDigit = true ∨ c = '-') (mark : Char) (hdigit : mark.isDigit = false)
    (hminus : mark ≠ '-') : c ≠ mark := by
  rintro rfl
  rcases hc with hc | hc
  · rw [hdigit] at hc
    cases hc
  · exact hminus hc

theorem isBlank_of_number (hc : c.isDigit = true ∨ c = '-') : isBlank c = false := by
  have hne := ne_of_number hc
  simp [isBlank, hne ' ', hne '\t', hne '\n', hne '\r']

theorem readValue_number (hc : c.isDigit = true ∨ c = '-') :
    readValue (fuel + 1) depth (c :: cs) = readNumber (c :: cs) := by
  have hne := ne_of_number hc
  rw [readValue, skipBlanks_cons (isBlank_of_number hc)]
  split
  · rename_i heq
    exact absurd heq nofun
  · rename_i heq
    exact absurd (List.cons.inj heq).1 (hne '"' rfl (by decide))
  · rename_i heq
    exact absurd (List.cons.inj heq).1 (hne '[' rfl (by decide))
  · rename_i heq
    exact absurd (List.cons.inj heq).1 (hne '\x7b' rfl (by decide))
  · rename_i heq
    exact absurd (List.cons.inj heq).1 (hne 'n' rfl (by decide))
  · rename_i heq
    exact absurd (List.cons.inj heq).1 (hne 't' rfl (by decide))
  · rename_i heq
    exact absurd (List.cons.inj heq).1 (hne 'f' rfl (by decide))
  · rfl

/-- The first character of an integer. -/
theorem exists_toString_int (i : Int) :
    ∃ c cs, (toString i).toList = c :: cs ∧ (c.isDigit = true ∨ c = '-') := by
  rcases Int.lt_or_le i 0 with hneg | hpos
  · exact ⟨'-', _, toList_toString_of_neg hneg, .inr rfl⟩
  · obtain ⟨n, rfl⟩ := Int.eq_ofNat_of_zero_le hpos
    rw [toList_toString_natCast]
    cases hdigits : Nat.toDigits 10 n with
    | nil => exact absurd hdigits Nat.toDigits_ne_nil
    | cons c cs => exact ⟨c, cs, rfl, .inl (Numeral.isDigit_of_mem (hdigits ▸ List.mem_cons_self))⟩

theorem reads_int {i : Int} (hi : Exact i) : Reads depth (.int i) := by
  intro level fuel rest hrest hfuel
  obtain ⟨c, cs, hwritten, hc⟩ := exists_toString_int i
  have hpretty : writePretty level (.int i) = (toString i).toList := rfl
  rw [hpretty] at hfuel ⊢
  obtain _ | fuel := fuel
  · rw [hwritten] at hfuel
    cases hfuel
  · rw [← readNumber_int hi hrest, hwritten, List.cons_append, readValue_number hc]

/-! ## Lists -/

theorem stops_cons (h : c.isDigit = false ∧ c ≠ '.' ∧ c ≠ 'e' ∧ c ≠ 'E') : Stops (c :: cs) := by
  intro c' hc'
  cases hc'
  exact h

theorem stops_newLine (level : Nat) (cs : List Char) : Stops (newLine level ++ cs) :=
  stops_cons (by decide)

/-- What is written starts with no blank, and with no closing bracket. -/
theorem exists_writePretty (h : Kept depth d) (level : Nat) :
    ∃ c cs, writePretty level d = c :: cs ∧ isBlank c = false ∧ c ≠ ']' := by
  cases h with
  | null => exact ⟨'n', _, rfl, rfl, by decide⟩
  | bool b => cases b <;> exact ⟨_, _, rfl, rfl, by decide⟩
  | @int _ i exact =>
    obtain ⟨c, cs, hwritten, hc⟩ := exists_toString_int i
    exact ⟨c, cs, hwritten, isBlank_of_number hc, ne_of_number hc ']' rfl (by decide)⟩
  | text s => exact ⟨'"', _, rfl, rfl, by decide⟩
  | @list _ items _ => cases items <;> exact ⟨'[', _, rfl, rfl, by decide⟩
  | @map _ entries _ _ _ => cases entries <;> exact ⟨'\x7b', _, rfl, rfl, by decide⟩

theorem length_newLine (level : Nat) : (newLine level).length = 2 * level + 1 := by
  simp [newLine]

theorem readItems_pretty (h : ∀ d ∈ items, Reads depth d) (hne : items ≠ [])
    (level level' fuel : Nat) (rest : List Char) (hfuel : (prettyItems level items).length ≤ fuel) :
    readItems fuel depth (prettyItems level items ++ (newLine level' ++ ']' :: rest)) =
      some (items, rest) := by
  -- a step for an item is paid for by the line end in front of it
  induction items generalizing fuel with
  | nil => exact absurd rfl hne
  | cons d items ih =>
    have hd := h d List.mem_cons_self
    cases items with
    | nil =>
      have hlines : prettyItems level [d] = newLine level ++ writePretty level d := rfl
      rw [hlines, List.length_append, length_newLine] at hfuel
      obtain _ | fuel := fuel
      · omega
      · rw [hlines, List.append_assoc, readItems, readValue_newLine,
          hd level fuel _ (stops_newLine _ _) (by omega)]
        dsimp only
        rw [skipBlanks_newLine]
        rfl
    | cons d' items =>
      have hlines : prettyItems level (d :: d' :: items) =
        newLine level ++ (writePretty level d ++ ',' :: prettyItems level (d' :: items)) := rfl
      rw [hlines, List.length_append, List.length_append, length_newLine, List.length_cons] at hfuel
      have hrest := ih (fun d hmem => h d (List.mem_cons_of_mem _ hmem)) nofun
      obtain _ | fuel := fuel
      · omega
      · rw [hlines, List.append_assoc, List.append_assoc, List.cons_append, readItems,
          readValue_newLine, hd level fuel _ (stops_cons (by decide)) (by omega)]
        dsimp only
        rw [skipBlanks_cons rfl]
        show (readItems fuel depth (prettyItems level (d' :: items) ++ _)).map _ = _
        rw [hrest fuel (by omega)]
        rfl

/-- What is read behind an opening bracket and blanks. -/
def readList (fuel depth : Nat) : List Char → Option (Data × List Char)
  | ']' :: rest => some (.list [], rest)
  | rest => (readItems fuel depth rest).map fun t => (.list t.1, t.2)

theorem readValue_bracket (fuel depth : Nat) (cs : List Char) :
    readValue (fuel + 1) (depth + 1) ('[' :: cs) = readList fuel depth (skipBlanks cs) := by
  rw [readValue, skipBlanks_cons rfl]
  rfl

theorem readValue_list (hopen : ∀ cs', skipBlanks cs ≠ ']' :: cs') :
    readValue (fuel + 1) (depth + 1) ('[' :: cs) =
      (readItems fuel depth cs).map fun t => (.list t.1, t.2) := by
  rw [readValue_bracket]
  unfold readList
  split
  · rename_i heq
    exact absurd heq (hopen _)
  · rw [readItems_skipBlanks]

theorem reads_list (h : ∀ d ∈ items, Kept depth d) (hreads : ∀ d ∈ items, Reads depth d) :
    Reads (depth + 1) (.list items) := by
  intro level fuel rest _ hfuel
  cases items with
  | nil =>
    obtain _ | fuel := fuel
    · cases hfuel
    · rfl
  | cons d items =>
    have hlines : writePretty level (.list (d :: items)) =
      '[' :: (prettyItems (level + 1) (d :: items) ++ (newLine level ++ [']'])) := rfl
    -- the first item keeps the reader from taking the list for an empty one
    obtain ⟨tail, htail⟩ : ∃ tail, prettyItems (level + 1) (d :: items) =
        newLine (level + 1) ++ (writePretty (level + 1) d ++ tail) := by
      cases items with
      | nil => exact ⟨[], by rw [List.append_nil]; rfl⟩
      | cons d' items => exact ⟨_, rfl⟩
    obtain ⟨c, cs, hwritten, hblank, hbracket⟩ :=
      exists_writePretty (h d List.mem_cons_self) (level + 1)
    have hopen : ∀ cs', skipBlanks (prettyItems (level + 1) (d :: items) ++
        (newLine level ++ ']' :: rest)) ≠ ']' :: cs' := by
      intro cs' heq
      rw [htail, List.append_assoc, skipBlanks_newLine, hwritten, List.cons_append, List.cons_append,
        skipBlanks_cons hblank] at heq
      exact hbracket (List.cons.inj heq).1
    rw [hlines, List.length_cons, List.length_append] at hfuel
    obtain _ | fuel := fuel
    · omega
    · rw [hlines, List.cons_append, List.append_assoc, List.append_assoc, List.singleton_append,
        readValue_list hopen, readItems_pretty hreads nofun _ _ fuel _ (by omega)]
      rfl

/-! ## Mappings -/

/-- The entries of a mapping with different names are all kept. -/
theorem addEntry_of_new {e : Key × Data} (h : e.1 ∉ entries.map Prod.fst) :
    addEntry e entries = e :: entries := by
  refine if_neg fun hany => h ?_
  obtain ⟨e', hmem, heq⟩ := List.any_eq_true.mp hany
  exact List.mem_map.mpr ⟨e', hmem, of_decide_eq_true heq⟩

/-- What is read of an entry behind its key. -/
def readEntry (fuel depth : Nat) (s : String) (cs : List Char) :
    Option (List (Key × Data) × List Char) :=
  match readValue fuel depth cs with
  | none => none
  | some (d, rest) =>
    match skipBlanks rest with
    | ',' :: rest => (readEntries fuel depth rest).map fun t => (addEntry (.name s, d) t.1, t.2)
    | '\x7d' :: rest => some ([(.name s, d)], rest)
    | _ => none

/-- What is read of an entry behind the name of its key and blanks. -/
def readNamed (fuel depth : Nat) (s : String) : List Char → Option (List (Key × Data) × List Char)
  | ':' :: rest => readEntry fuel depth s rest
  | _ => none

theorem readEntries_quote (fuel depth : Nat) (cs : List Char) :
    readEntries (fuel + 1) depth ('"' :: cs) =
      (readText cs).bind fun t => readNamed fuel depth (String.ofList t.1) (skipBlanks t.2) := by
  rw [readEntries, skipBlanks_cons rfl]
  split
  · rename_i heq
    obtain ⟨-, rfl⟩ := List.cons.inj heq
    cases readText cs <;> rfl
  · rename_i hquote
    exact absurd rfl (hquote cs)

theorem readEntries_name (s : String) (cs : List Char) :
    readEntries (fuel + 1) depth (writeText s ++ ':' :: cs) = readEntry fuel depth s cs := by
  have htext : writeText s ++ ':' :: cs = '"' :: (s.toList.flatMap escapeChar ++ '"' :: ':' :: cs) := by
    simp [writeText]
  rw [htext, readEntries_quote, readText_escape, Option.bind_some, skipBlanks_cons rfl,
    String.ofList_toList]
  rfl

theorem readEntries_pretty (h : ∀ e ∈ entries, Reads depth e.2)
    (hnamed : ∀ e ∈ entries, ∃ s, e.1 = .name s) (hnodup : (entries.map Prod.fst).Nodup)
    (hne : entries ≠ []) (level level' fuel : Nat) (rest : List Char)
    (hfuel : (prettyEntries level entries).length ≤ fuel) :
    readEntries fuel depth (prettyEntries level entries ++ (newLine level' ++ '\x7d' :: rest)) =
      some (entries, rest) := by
  induction entries generalizing fuel with
  | nil => exact absurd rfl hne
  | cons e entries ih =>
    obtain ⟨key, d⟩ := e
    obtain ⟨s, rfl⟩ : ∃ s, key = .name s := hnamed _ List.mem_cons_self
    have hd : Reads depth d := h _ List.mem_cons_self
    cases entries with
    | nil =>
      have hlines : prettyEntries level [(.name s, d)] =
        newLine level ++ (writeText s ++ ':' :: ' ' :: writePretty level d) := rfl
      rw [hlines, List.length_append, List.length_append, length_newLine, List.length_cons,
        List.length_cons] at hfuel
      obtain _ | fuel := fuel
      · omega
      · rw [hlines, List.append_assoc, readEntries_newLine, List.append_assoc, List.cons_append,
          List.cons_append, readEntries_name, readEntry, readValue_space,
          hd level fuel _ (stops_newLine _ _) (by omega)]
        dsimp only
        rw [skipBlanks_newLine]
        rfl
    | cons e' entries =>
      have hlines : prettyEntries level ((.name s, d) :: e' :: entries) =
        newLine level ++ (writeText s ++ ':' :: ' ' :: (writePretty level d ++
          ',' :: prettyEntries level (e' :: entries))) := rfl
      obtain ⟨hnew, hnodup⟩ := List.nodup_cons.mp hnodup
      rw [hlines, List.length_append, List.length_append, length_newLine, List.length_cons,
        List.length_cons, List.length_append, List.length_cons] at hfuel
      have hrest := ih (fun e hmem => h e (List.mem_cons_of_mem _ hmem))
        (fun e hmem => hnamed e (List.mem_cons_of_mem _ hmem)) hnodup nofun
      obtain _ | fuel := fuel
      · omega
      · rw [hlines, List.append_assoc, readEntries_newLine, List.append_assoc, List.cons_append,
          List.cons_append, readEntries_name, readEntry, readValue_space, List.append_assoc,
          List.cons_append, hd level fuel _ (stops_cons (by decide)) (by omega)]
        dsimp only
        rw [skipBlanks_cons rfl]
        show (readEntries fuel depth (prettyEntries level (e' :: entries) ++ _)).map _ = _
        rw [hrest fuel (by omega), Option.map_some, addEntry_of_new hnew]

/-- What is read behind an opening brace and blanks. -/
def readMap (fuel depth : Nat) : List Char → Option (Data × List Char)
  | '\x7d' :: rest => some (.map [], rest)
  | rest => (readEntries fuel depth rest).map fun t => (.map t.1, t.2)

theorem readValue_brace (fuel depth : Nat) (cs : List Char) :
    readValue (fuel + 1) (depth + 1) ('\x7b' :: cs) = readMap fuel depth (skipBlanks cs) := by
  rw [readValue, skipBlanks_cons rfl]
  rfl

theorem readValue_map (hopen : ∀ cs', skipBlanks cs ≠ '\x7d' :: cs') :
    readValue (fuel + 1) (depth + 1) ('\x7b' :: cs) =
      (readEntries fuel depth cs).map fun t => (.map t.1, t.2) := by
  rw [readValue_brace]
  unfold readMap
  split
  · rename_i heq
    exact absurd heq (hopen _)
  · rw [readEntries_skipBlanks]

theorem reads_map (hnamed : ∀ e ∈ entries, ∃ s, e.1 = .name s)
    (hnodup : (entries.map Prod.fst).Nodup) (hreads : ∀ e ∈ entries, Reads depth e.2) :
    Reads (depth + 1) (.map entries) := by
  intro level fuel rest _ hfuel
  cases entries with
  | nil =>
    obtain _ | fuel := fuel
    · cases hfuel
    · rfl
  | cons e entries =>
    have hlines : writePretty level (.map (e :: entries)) =
      '\x7b' :: (prettyEntries (level + 1) (e :: entries) ++ (newLine level ++ ['\x7d'])) := rfl
    -- as the first item of a list does, by the quote of its key
    obtain ⟨tail, htail⟩ : ∃ tail, prettyEntries (level + 1) (e :: entries) =
        newLine (level + 1) ++ '"' :: tail := by
      obtain ⟨key, d⟩ := e
      obtain ⟨s, rfl⟩ : ∃ s, key = .name s := hnamed _ List.mem_cons_self
      cases entries <;> exact ⟨_, rfl⟩
    have hopen : ∀ cs', skipBlanks (prettyEntries (level + 1) (e :: entries) ++
        (newLine level ++ '\x7d' :: rest)) ≠ '\x7d' :: cs' := by
      intro cs' heq
      rw [htail, List.append_assoc, skipBlanks_newLine, List.cons_append, skipBlanks_cons rfl] at heq
      exact absurd (List.cons.inj heq).1 (by decide)
    rw [hlines, List.length_cons, List.length_append] at hfuel
    obtain _ | fuel := fuel
    · omega
    · rw [hlines, List.cons_append, List.append_assoc, List.append_assoc, List.singleton_append,
        readValue_map hopen,
        readEntries_pretty hreads hnamed hnodup nofun _ _ fuel _ (by omega)]
      rfl

/-- **What JSON keeps is read back**, whatever follows it. -/
theorem reads_of_kept (h : Kept depth d) : Reads depth d := by
  induction h with
  | null => exact reads_null
  | bool b => exact reads_bool b
  | int exact => exact reads_int exact
  | text s => exact reads_text s
  | list items_kept ih => exact reads_list items_kept ih
  | map named nodup _ ih => exact reads_map named nodup ih

/-! ## Forms that are kept -/

theorem kept_record {entries : List (String × Data)} (names : List String) (hnodup : names.Nodup)
    (hnames : entries.map Prod.fst = names) (h : ∀ e ∈ entries, Kept depth e.2) :
    Kept (depth + 1) (.record entries) := by
  subst hnames
  refine .map ?_ ?_ ?_
  · intro e hmem
    obtain ⟨e', -, rfl⟩ := List.mem_map.mp hmem
    exact ⟨e'.1, rfl⟩
  · have hnames := List.Nodup.map (f := Key.name) (fun _ _ => Key.name.inj) hnodup
    rwa [List.map_map] at hnames ⊢
  · intro e hmem
    obtain ⟨e', hmem', rfl⟩ := List.mem_map.mp hmem
    exact h e' hmem'

theorem kept_list {α : Type} {as : List α} {form : α → Data} (h : ∀ a ∈ as, Kept depth (form a)) :
    Kept (depth + 1) (.list (as.map form)) := by
  refine .list fun d hmem => ?_
  obtain ⟨a, hmem', rfl⟩ := List.mem_map.mp hmem
  exact h a hmem'

theorem kept_int32 {i : Int} (h : Data.int32Min ≤ i ∧ i ≤ Data.int32Max) : Kept depth (.int i) := by
  refine .int ?_
  simp only [Data.int32Min, Data.int32Max, Exact] at h ⊢
  omega

theorem kept_word64 {n : Nat} (h : n < UInt64.size) : Kept depth (.int n) := by
  refine .int ?_
  simp only [UInt64.size, Exact] at h ⊢
  omega

end Json

/-- **A document is read back from its text.** -/
theorem Data.ofJson?_pretty {d : Data} (h : Json.Kept Json.depthLimit d) :
    Data.ofJson? (d.pretty ++ "\n") = some d := by
  have hchars : (d.pretty ++ "\n").toList = Json.writePretty 0 d ++ ['\n'] := by
    rw [String.toList_append, Data.pretty, String.toList_ofList]
    rfl
  have hread := Json.reads_of_kept h 0 (2 * (Json.writePretty 0 d ++ ['\n']).length + 2) ['\n']
    (Json.stops_cons (by decide)) (by rw [List.length_append]; omega)
  unfold Data.ofJson?
  rw [hchars]
  dsimp only
  rw [hread]
  rfl

end Conformance
