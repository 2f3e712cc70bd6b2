import ThemedViews.Config
import ThemedViews.Proofs.OrderedDocuments
import ThemedViews.Proofs.WrittenTexts

/-!
# Configurations that are written and read

A configuration is written as three pairs, with the aliases under a header if there
are any.  Reading takes one line after the other, and its tables grow by what the
line says; at the end they hold the configuration.
-/

namespace ThemedViews

namespace Toml

open Text

variable {document : Document} {rest : Text}

section Lines

variable {first : Char}

theorem ne_of_opensKey {other : Char} (opens : opensKey first = true) (isOther : opensKey other = false) :
    first ≠ other := by
  rintro rfl
  rw [opens] at isOther
  contradiction

theorem isBlank_of_opensKey (opens : opensKey first = true) : isBlank first = false := by
  have notSpace : first ≠ ' ' := ne_of_opensKey opens rfl
  have notTab : first ≠ '\t' := ne_of_opensKey opens rfl
  simp [isBlank, notSpace, notTab]

theorem afterBlanks_of_opensKey (opens : opensKey first = true) (rest : Text) :
    afterBlanks (first :: rest) = first :: rest :=
  dropWhile_eq_self_of_stops (isBlank_of_opensKey opens)

/-- A line that begins with a key has nothing in front of it. -/
theorem afterGap?_of_opensKey (opens : opensKey first = true) (rest : Text) :
    afterGap? false (first :: rest) = some (first :: rest) := by
  rw [afterGap?, if_neg (ne_of_opensKey opens rfl), if_neg (ne_of_opensKey opens rfl), if_neg Bool.false_ne_true,
    if_neg (ne_of_opensKey opens rfl), isBlank_of_opensKey opens, if_neg Bool.false_ne_true]

/-- A key without a dot behind it stands alone. -/
theorem readKeys_of_readKey {more : Text} {key : String} (opens : opensKey first = true)
    (reads : readKey (first :: more) = some (key, rest)) (noDot : (afterBlanks rest).head? ≠ some '.') :
    readKeys (first :: more) = some (([], key), afterBlanks rest) := by
  have one : readKeysUpTo (maxLevels - 1 + 1) (first :: more) = some (([], key), afterBlanks rest) := by
    rw [readKeysUpTo, afterBlanks_of_opensKey opens, reads]
    simp only [Option.bind_eq_bind, Option.bind_some]
    split
    · next dot => exact absurd (congrArg List.head? dot) noDot
    · rfl
  exact one

theorem readKeys_writeKey (key rest : Text) :
    readKeys (writeKey key ++ ' ' :: '=' :: rest) = some (([], String.ofList key), '=' :: rest) := by
  have reads : readKey (writeKey key ++ ' ' :: '=' :: rest) = some (String.ofList key, ' ' :: '=' :: rest) :=
    readKey_writeKey key rfl (by simp) (by simp)
  have sign : afterBlanks (' ' :: '=' :: rest) = '=' :: rest := rfl
  obtain ⟨first, more, isKey, opens⟩ := exists_writeKey_eq_cons key
  rw [isKey, List.cons_append] at reads ⊢
  rw [readKeys_of_readKey opens reads (by simp [sign]), sign]

theorem readValue_writeText (levels : Nat) (text rest : Text) :
    readValue levels (writeText text ++ '\n' :: rest) = some (.text (String.ofList text), '\n' :: rest) := by
  have reads : quoted? (writeText text ++ '\n' :: rest) = some (text, '\n' :: rest) :=
    quoted?_writeText text (by simp) (by simp)
  obtain ⟨first, more, isText, isQuote⟩ := exists_writeText_eq_cons text
  rw [isText, List.cons_append] at reads ⊢
  have scalar : readScalar (first :: (more ++ '\n' :: rest)) = some (.text (String.ofList text), '\n' :: rest) := by
    rw [readScalar, if_pos (by simpa using isQuote), reads]
    rfl
  cases levels with
  | zero => exact scalar
  | succ levels => rcases isQuote with rfl | rfl <;> exact scalar

theorem afterBlanks_writeText (text rest : Text) :
    afterBlanks (' ' :: (writeText text ++ rest)) = writeText text ++ rest := by
  obtain ⟨quote, more, isText, isQuote⟩ := exists_writeText_eq_cons text
  have opens : opensKey quote = true := by rcases isQuote with rfl | rfl <;> rfl
  rw [isText]
  exact afterBlanks_of_opensKey opens (more ++ rest)

theorem writePair_append (key value : String) (rest : Text) :
    writePair key value ++ rest =
      writeKey key.toList ++ ' ' :: '=' :: ' ' :: (writeText value.toList ++ '\n' :: rest) := by
  simp [writePair]

theorem readStatement_writePair (document : Document) (key value : String) (rest : Text) :
    readStatement document (writePair key value ++ rest) =
      (document.root.change .byHeader (Entries.addNew key (.text value)) document.current).map fun root =>
        (⟨root, document.current⟩, '\n' :: rest) := by
  have keys := readKeys_writeKey key.toList (' ' :: (writeText value.toList ++ '\n' :: rest))
  have sign (behind : Text) : ['='].isPrefixOf? ('=' :: behind) = some behind := isPrefixOf?_append ['='] behind
  obtain ⟨first, more, isKey, opens⟩ := exists_writeKey_eq_cons key.toList
  have notBracket : first ≠ '[' := ne_of_opensKey opens rfl
  rw [isKey, List.cons_append] at keys
  rw [writePair_append, isKey, List.cons_append]
  unfold readStatement
  split
  · next same => exact absurd (List.cons.inj same).1 notBracket
  · next same => exact absurd (List.cons.inj same).1 notBracket
  · simp only [keys, Option.bind_eq_bind, Option.bind_some, sign, afterBlanks_writeText, readValue_writeText,
      String.ofList_toList]
    exact Option.map_eq_bind.symm

theorem readStatement_header (document : Document) {name : Text} (isSome : name ≠ [])
    (bare : ∀ character ∈ name, isBareChar character = true) (rest : Text) :
    readStatement document ('[' :: (name ++ ']' :: '\n' :: rest)) =
      (Entries.openTable (String.ofList name) document.root).map fun root =>
        (⟨root, [String.ofList name]⟩, '\n' :: rest) := by
  have ends : [']'].isPrefixOf? (']' :: '\n' :: rest) = some ('\n' :: rest) := isPrefixOf?_append [']'] _
  have bracket : afterBlanks (']' :: '\n' :: rest) = ']' :: '\n' :: rest := rfl
  have reads : readKey (name ++ ']' :: '\n' :: rest) = some (String.ofList name, ']' :: '\n' :: rest) :=
    readKey_bare isSome bare rfl
  obtain ⟨first, more, rfl⟩ := List.exists_cons_of_ne_nil isSome
  have opens : opensKey first = true := by simp [opensKey, bare first List.mem_cons_self]
  have keys : readKeys (first :: more ++ ']' :: '\n' :: rest) =
      some (([], String.ofList (first :: more)), ']' :: '\n' :: rest) :=
    readKeys_of_readKey opens reads (by simp [bracket])
  unfold readStatement
  split
  · next same =>
      have twice : first = '[' := (List.cons.inj (List.cons.inj same).2).1
      exact absurd twice (ne_of_opensKey opens rfl)
  · next same =>
      cases same
      simp only [keys, Option.bind_eq_bind, Option.bind_some, ends]
      exact Option.map_eq_bind.symm
  · next notBracket => exact absurd rfl (notBracket _)

section Statements

variable {current : List String} {changed : Option Entries}

/-- One line of a document, after which the others are read. -/
theorem readStatements_line (limit : Nat) {text more : Text}
    (gap : afterGap? false text = some (first :: more))
    (statement : readStatement document (first :: more) = changed.map fun root => (⟨root, current⟩, '\n' :: rest)) :
    readStatements (limit + 1) document text = changed.bind fun root => readStatements limit ⟨root, current⟩ rest := by
  rw [readStatements, gap, Option.bind_eq_bind, Option.bind_some]
  simp only [statement]
  rw [Option.bind_eq_bind, Option.bind_map]
  rfl

/-- A line with a pair adds the pair to the current table. -/
theorem readStatements_writePair (limit : Nat) (document : Document) (key value : String) (rest : Text) :
    readStatements (limit + 1) document (writePair key value ++ rest) =
      (document.root.change .byHeader (Entries.addNew key (.text value)) document.current).bind fun root =>
        readStatements limit ⟨root, document.current⟩ rest := by
  have statement := readStatement_writePair document key value rest
  obtain ⟨first, more, isKey, opens⟩ := exists_writeKey_eq_cons key.toList
  rw [writePair_append, isKey, List.cons_append] at statement ⊢
  exact readStatements_line limit (afterGap?_of_opensKey opens _) statement

/-- A header opens a table, and the next pairs go there. -/
theorem readStatements_header (limit : Nat) (document : Document) {name : Text} (isSome : name ≠ [])
    (bare : ∀ character ∈ name, isBareChar character = true) (rest : Text) :
    readStatements (limit + 1) document ('\n' :: '[' :: (name ++ ']' :: '\n' :: rest)) =
      (Entries.openTable (String.ofList name) document.root).bind fun root =>
        readStatements limit ⟨root, [String.ofList name]⟩ rest :=
  readStatements_line limit rfl (readStatement_header document isSome bare rest)

end Statements

end Lines

section Tables

/-- A table of texts as it stands in a document. -/
def texts (table : Table String) : Entries :=
  table.map fun (key, content) => (key, .text content)

@[simp]
theorem keys_texts (table : Table String) : Table.keys (texts table) = Table.keys table := by
  simp [texts, Table.keys]

theorem addNew_texts {before : Table String} {key : String} (behind : ∀ other ∈ Table.keys before, other < key)
    (content : String) :
    Entries.addNew key (.text content) (texts before) = some (texts (before ++ [(key, content)])) := by
  have unbound : ¬ Table.contains key (texts before) = true := by
    rw [Table.contains_iff, keys_texts]
    exact fun bound => String.lt_irrefl key (behind key bound)
  rw [Entries.addNew, if_neg unbound, Table.insert_of_forall_lt (by rwa [keys_texts])]
  simp [texts]

/-- The pairs of a table, each on its line. -/
def writePairs (table : Table String) : Text :=
  table.flatMap fun (key, content) => writePair key content

theorem writePairs_cons (key content : String) (table : Table String) :
    writePairs ((key, content) :: table) = writePair key content ++ writePairs table :=
  List.flatMap_cons

theorem four_le_length_writePair (key value : String) : 4 ≤ (writePair key value).length := by
  simp only [writePair, List.length_append, List.length_cons]
  omega

theorem length_le_length_writePairs (table : Table String) : table.length ≤ (writePairs table).length := by
  induction table with
  | nil => exact Nat.le_refl 0
  | cons entry table ih =>
      have line := four_le_length_writePair entry.1 entry.2
      rw [writePairs_cons, List.length_append, List.length_cons]
      omega

/-- A header leads to its table. -/
theorem change_header (step : Entries → Option Entries) (name : String) (inner root : Entries) :
    Entries.change .byHeader step [name] (Table.insert name (.table .header inner) root) =
      (step inner).map fun inner => Table.insert name (.table .header inner) root := by
  rw [Entries.change, Table.lookup_insert_self]
  simp only [Way.enters, if_pos, Entries.change, Table.insert_insert_self]
  exact Option.map_eq_bind.symm

/-- The pairs of a table, written in the order of their keys under its header, fill it. -/
theorem readStatements_pairs (name : String) (root : Entries) {before table : Table String}
    (sorted : Table.Sorted (before ++ table)) (limit : Nat) (rest : Text) :
    readStatements (limit + table.length)
        ⟨Table.insert name (.table .header (texts before)) root, [name]⟩
        (writePairs table ++ rest) =
      readStatements limit ⟨Table.insert name (.table .header (texts (before ++ table))) root, [name]⟩ rest := by
  induction table generalizing before with
  | nil =>
      rw [List.append_nil]
      rfl
  | cons entry table ih =>
      obtain ⟨key, content⟩ := entry
      have behind : ∀ other ∈ Table.keys before, other < key := by
        intro other member
        rw [Table.Sorted, Table.keys, List.map_append] at sorted
        exact (List.pairwise_append.mp sorted).2.2 other member key List.mem_cons_self
      have step := readStatements_writePair (limit + table.length)
        ⟨Table.insert name (.table .header (texts before)) root, [name]⟩ key content
        (writePairs table ++ rest)
      rw [change_header, addNew_texts behind] at step
      rw [List.append_cons] at sorted ⊢
      rw [writePairs_cons, List.append_assoc]
      exact step.trans (ih sorted)

end Tables

end Toml

namespace Config

open Toml

variable {config : Config}

/-- The tables of a written configuration. -/
def entries (config : Config) : Entries :=
  let pairs := texts [("layout", config.layout), ("location", config.location), ("theme", config.theme)]
  if config.names.isEmpty then pairs
  else Table.insert "names" (.table .header (texts config.names)) pairs

theorem namesOf_texts (origin : Origin) (names : Table String) :
    namesOf (some (.table origin (texts names))) = some names := by
  induction names with
  | nil => rfl
  | cons entry names ih =>
      simp only [namesOf, texts] at ih
      simp [namesOf, texts, ih]

theorem ofEntries_entries (config : Config) : ofEntries config.entries = some config := by
  obtain ⟨location, theme, layout, names⟩ := config
  cases names with
  | nil => rfl
  | cons entry names =>
      have reads : ofEntries (entries ⟨location, theme, layout, entry :: names⟩) =
          (namesOf (some (.table .header (texts (entry :: names))))).bind fun names =>
            some ⟨location, theme, layout, names⟩ := rfl
      rw [reads, namesOf_texts]
      rfl

/-- A document that begins with a pair has no byte order mark. -/
theorem read_writePair (key value : String) (rest : Text) :
    Toml.read (String.ofList (writePair key value ++ rest)) =
      (readStatements ((writePair key value ++ rest).length + 1) ⟨[], []⟩
        (writePair key value ++ rest)).map Document.root := by
  obtain ⟨first, more, isKey, opens⟩ := exists_writeKey_eq_cons key.toList
  have notMark : first ≠ '\uFEFF' := ne_of_opensKey opens rfl
  rw [writePair_append, isKey, List.cons_append]
  unfold Toml.read
  rw [String.toList_ofList]
  split
  · next same => exact absurd (List.cons.inj same).1 notMark
  · rfl

/-- The pairs that every written configuration begins with. -/
theorem readStatements_settings (limit : Nat) (location theme layout : String) (rest : Text) :
    readStatements (limit + 3) ⟨[], []⟩ (writePair "location" location ++
        (writePair "theme" theme ++ (writePair "layout" layout ++ rest))) =
      readStatements limit ⟨texts [("layout", layout), ("location", location), ("theme", theme)], []⟩ rest :=
  calc
    _ = readStatements (limit + 2) ⟨texts [("location", location)], []⟩
          (writePair "theme" theme ++ (writePair "layout" layout ++ rest)) :=
        readStatements_writePair (limit + 2) ⟨[], []⟩ "location" location _
    _ = readStatements (limit + 1) ⟨texts [("location", location), ("theme", theme)], []⟩
          (writePair "layout" layout ++ rest) :=
        readStatements_writePair (limit + 1) ⟨texts [("location", location)], []⟩ "theme" theme _
    _ = _ :=
        readStatements_writePair limit ⟨texts [("location", location), ("theme", theme)], []⟩ "layout" layout rest

/-- The aliases are read from the lines below their header. -/
theorem readStatements_names {names : Table String} (sorted : Table.Sorted names) (limit : Nat) {root : Entries}
    (fresh : root.lookup "names" = none) :
    readStatements (limit + 1 + names.length + 1) ⟨root, []⟩ ("\n[names]\n".toList ++ writePairs names) =
      some ⟨Table.insert "names" (.table .header (texts names)) root, ["names"]⟩ := by
  have opened : Entries.openTable "names" root = some (Table.insert "names" (.table .header []) root) := by
    rw [Entries.openTable, fresh]
  have isSome : "names".toList ≠ [] := by decide
  have bare : ∀ character ∈ "names".toList, isBareChar character = true := by decide
  have header := readStatements_header (limit + 1 + names.length) ⟨root, []⟩ isSome bare (writePairs names)
  have allSorted : Table.Sorted ([] ++ names) := sorted
  have pairs := readStatements_pairs "names" root allSorted (limit + 1) []
  rw [String.ofList_toList, opened] at header
  rw [List.append_nil] at pairs
  exact header.trans pairs

/-- What is written behind the settings. -/
def aliasText (names : Table String) : Text :=
  if names.isEmpty then [] else "\n[names]\n".toList ++ writePairs names

theorem length_le_length_aliasText (names : Table String) : names.length ≤ (aliasText names).length := by
  cases names with
  | nil => exact Nat.le_refl 0
  | cons entry names =>
      rw [aliasText, if_neg (by simp), List.length_append]
      exact Nat.le_add_left_of_le (length_le_length_writePairs (entry :: names))

theorem toToml_eq (config : Config) :
    config.toToml = String.ofList (writePair "location" config.location ++ (writePair "theme" config.theme ++
      (writePair "layout" config.layout ++ aliasText config.names))) := by
  rw [toToml, List.append_assoc, List.append_assoc]
  rfl

theorem readStatements_aliasText {names : Table String} (sorted : Table.Sorted names) (limit : Nat)
    (location theme layout : String) :
    (readStatements (limit + 1 + names.length + 1)
        ⟨texts [("layout", layout), ("location", location), ("theme", theme)], []⟩ (aliasText names)).map
        Document.root =
      some (entries ⟨location, theme, layout, names⟩) := by
  cases names with
  | nil => rfl
  | cons entry names =>
      rw [aliasText, if_neg (by simp), readStatements_names sorted limit rfl]
      rfl

/-- Reading takes what was written, line by line. -/
theorem read_toToml (sorted : Table.Sorted config.names) : Toml.read config.toToml = some config.entries := by
  obtain ⟨location, theme, layout, names⟩ := config
  rw [toToml_eq, read_writePair]
  have enough : names.length + 5 ≤ (writePair "location" location ++ (writePair "theme" theme ++
      (writePair "layout" layout ++ aliasText names))).length + 1 := by
    have first := four_le_length_writePair "location" location
    have second := four_le_length_writePair "theme" theme
    have behind := length_le_length_aliasText names
    simp only [List.length_append]
    omega
  obtain ⟨limit, isLimit⟩ := Nat.exists_eq_add_of_le' enough
  have limits : limit + (names.length + 5) = limit + 1 + names.length + 1 + 3 := by omega
  rw [limits] at isLimit
  simp only [isLimit, readStatements_settings]
  exact readStatements_aliasText sorted limit location theme layout

/-- The theme, the layout and all view names behind aliases say something. -/
structure Usable (config : Config) : Prop where
  theme : isBlank config.theme = false
  layout : isBlank config.layout = false
  names : ∀ entry ∈ config.names, isBlank entry.2 = false

/-- Nothing is wrong with a usable configuration, and with no other. -/
theorem problem?_eq_none_iff : config.problem? = none ↔ config.Usable := by
  constructor
  · intro none
    unfold problem? at none
    split at none
    · cases none
    · next theme =>
        split at none
        · cases none
        · next layout =>
            rw [Option.map_eq_none_iff, List.find?_eq_none] at none
            exact ⟨Bool.eq_false_iff.mpr theme, Bool.eq_false_iff.mpr layout,
              fun entry member => Bool.eq_false_iff.mpr (none entry member)⟩
  · intro usable
    have absent : config.names.find? (fun entry => isBlank entry.2) = none :=
      List.find?_eq_none.mpr fun entry member => by simp [usable.names entry member]
    simp [problem?, usable.theme, usable.layout, absent]

section Acceptance

variable {content : String}

theorem ofToml_of_usable (isConfig : (Toml.read content).bind ofEntries = some config) (usable : config.Usable) :
    ofToml content = .ok config := by
  rw [ofToml, isConfig]
  simp only [problem?_eq_none_iff.mpr usable]
  rfl

theorem ofToml_of_not_usable (isConfig : (Toml.read content).bind ofEntries = some config)
    (unusable : ¬ config.Usable) :
    ∃ problem, config.problem? = some problem ∧ ofToml content = .error (.invalidConfig problem) := by
  obtain ⟨problem, wrong⟩ := Option.ne_none_iff_exists'.mp (mt problem?_eq_none_iff.mp unusable)
  refine ⟨problem, wrong, ?_⟩
  rw [ofToml, isConfig]
  simp only [wrong]
  rfl

/-- Only a usable configuration is accepted, and it is what the tables say. -/
theorem usable_of_ofToml (accepted : ofToml content = .ok config) :
    (Toml.read content).bind ofEntries = some config ∧ config.Usable := by
  cases isConfig : (Toml.read content).bind ofEntries with
  | none =>
      rw [ofToml, isConfig] at accepted
      cases accepted
  | some found =>
      by_cases usable : found.Usable
      · cases accepted.symm.trans (ofToml_of_usable isConfig usable)
        exact ⟨rfl, usable⟩
      · obtain ⟨problem, -, rejected⟩ := ofToml_of_not_usable isConfig usable
        cases accepted.symm.trans rejected

end Acceptance

theorem keys_of_namesOf (origin : Origin) {tables : Entries} {names : Table String}
    (areNames : namesOf (some (.table origin tables)) = some names) : Table.keys names = Table.keys tables := by
  induction tables generalizing names with
  | nil =>
      cases areNames
      rfl
  | cons entry tables ih =>
      obtain ⟨key, value⟩ := entry
      simp only [namesOf, List.mapM_cons] at areNames
      obtain ⟨first, isFirst, areNames⟩ := Option.bind_eq_some_iff.mp areNames
      obtain ⟨others, areOthers, areNames⟩ := Option.bind_eq_some_iff.mp areNames
      cases areNames
      have sameKey : first.1 = key := by
        split at isFirst
        · cases isFirst
          rfl
        · cases isFirst
      rw [Table.keys, Table.keys, List.map_cons, List.map_cons, sameKey]
      exact congrArg (key :: ·) (ih areOthers)

/-- The aliases are in the order of the document. -/
theorem sorted_of_namesOf {node : Option Node} {names : Table String}
    (ordered : ∀ value, node = some value → value.Ordered) (areNames : namesOf node = some names) :
    Table.Sorted names := by
  unfold namesOf at areNames
  split at areNames
  · cases areNames
    exact Table.sorted_nil
  · next origin tables =>
      have same : Table.keys names = Table.keys tables := keys_of_namesOf origin areNames
      rw [Table.Sorted, same]
      exact (Entries.ordered_of_table (ordered _ rfl)).sorted
  · cases areNames
    exact List.pairwise_singleton _ momentKey
  · cases areNames

theorem sorted_names_of_ofEntries {tables : Entries} (ordered : tables.Ordered)
    (isConfig : ofEntries tables = some config) : Table.Sorted config.names := by
  obtain ⟨location, -, isConfig⟩ := Option.bind_eq_some_iff.mp isConfig
  obtain ⟨theme, -, isConfig⟩ := Option.bind_eq_some_iff.mp isConfig
  obtain ⟨layout, -, isConfig⟩ := Option.bind_eq_some_iff.mp isConfig
  obtain ⟨names, areNames, isConfig⟩ := Option.bind_eq_some_iff.mp isConfig
  cases isConfig
  exact sorted_of_namesOf (fun value found => ordered.of_lookup found) areNames

theorem sorted_names_of_read {content : String} (isConfig : (Toml.read content).bind ofEntries = some config) :
    Table.Sorted config.names := by
  obtain ⟨tables, areTables, isConfig⟩ := Option.bind_eq_some_iff.mp isConfig
  exact sorted_names_of_ofEntries (read_ordered areTables) isConfig

theorem bind_read_toToml (sorted : Table.Sorted config.names) :
    (Toml.read config.toToml).bind ofEntries = some config := by
  rw [read_toToml sorted, Option.bind_some, ofEntries_entries]

/-- What is accepted is usable and is accepted again after it was written.  Any usable
configuration is read back as it is, and any other is rejected with its problem. -/
theorem usable_and_ofToml_toToml :
    (∀ content config, ofToml content = .ok config → config.Usable ∧ ofToml config.toToml = .ok config) ∧
      ∀ config : Config, Table.Sorted config.names →
        (config.Usable → ofToml config.toToml = .ok config) ∧
          (¬ config.Usable → ∃ problem, config.problem? = some problem ∧
            ofToml config.toToml = .error (.invalidConfig problem)) := by
  constructor
  · intro content config accepted
    obtain ⟨isConfig, usable⟩ := usable_of_ofToml accepted
    exact ⟨usable, ofToml_of_usable (bind_read_toToml (sorted_names_of_read isConfig)) usable⟩
  · intro config sorted
    exact ⟨ofToml_of_usable (bind_read_toToml sorted), ofToml_of_not_usable (bind_read_toToml sorted)⟩

/-- A file with keys and texts in many ways of writing. -/
def oddFile : String :=
  "names.\"\" = \"\"\"\n\"' \"\"\"\n layout='\\ \t'#'\r\n\"theme\" = \"dark '''\\n\\\"\\\"\\\"\" \nnames . \"a.b = c\" = '''x\r\n\\y'''"

def oddConfig : Config :=
  ⟨"public/themes", "dark '''\n\"\"\"", "\\ \t", [("", "\"' "), ("a.b = c", "x\r\n\\y")]⟩

theorem usable_and_ofToml_toToml_odd :
    ofToml oddFile = .ok oddConfig ∧ oddConfig.Usable ∧ ofToml oddConfig.toToml = .ok oddConfig ∧
      ∃ problem, ofToml { oddConfig with theme := " \t" }.toToml = .error (.invalidConfig problem) := by
  have accepted : ofToml oddFile = .ok oddConfig := by rfl
  have sorted : Table.Sorted oddConfig.names := by
    unfold Table.Sorted
    decide
  have blank : ¬ Usable { oddConfig with theme := " \t" } := fun usable => absurd usable.theme (by decide)
  obtain ⟨usable, again⟩ := usable_and_ofToml_toToml.1 oddFile oddConfig accepted
  obtain ⟨problem, -, rejected⟩ := (usable_and_ofToml_toToml.2 { oddConfig with theme := " \t" } sorted).2 blank
  exact ⟨accepted, usable, again, problem, rejected⟩

end Config

end ThemedViews
