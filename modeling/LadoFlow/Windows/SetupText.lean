import LadoFlow.Framework.Codec

/-!
# Names and texts of the Windows setup helper

Wide strings are lists of characters. The helper owns a service by its command line, account and
display name, and a driver package by the markers of its INF file.
-/

namespace LadoFlow.Windows

open Framework

abbrev WString := List Char

def kServiceBinaryName : WString := "LadoFlowDisplayService.exe".toList
def kServiceDisplayName : WString := "LadoFlow Virtual Display Service".toList

def backslash : Char := Char.ofNat 92
def quotationMark : Char := Char.ofNat 34

def toLower (value : WString) : WString := value.map Char.toLower

def joinPath (base child : WString) : WString :=
  if base = [] ∨ base.getLast? = some backslash then base ++ child else base ++ backslash :: child

def isSeparator (character : Char) : Bool := character == backslash || character == '/'

/-- What follows the last separator. -/
def baseName (path : WString) : WString :=
  (path.reverse.takeWhile fun character => !isSeparator character).reverse

def isStrictPublishedInfName (value : WString) : Bool :=
  let lower := toLower value
  if lower.length < 8 ∨ lower.take 3 ≠ "oem".toList ∨
      lower.drop (lower.length - 4) ≠ ".inf".toList then false
  else ((lower.drop 3).take (lower.length - 7)).all fun character =>
    '0' ≤ character ∧ character ≤ '9'

def isBlank (character : Char) : Bool := character == ' ' || character == Char.ofNat 9

/-- The text from the first to the last character that is not a blank. -/
def trimBlanks (text : WString) : WString :=
  ((text.dropWhile isBlank).reverse.dropWhile isBlank).reverse

/-- The executable, when the argument behind it is the word `service`. -/
def serviceExecutable (executable argument : WString) : Option WString :=
  if toLower (trimBlanks argument) = "service".toList then some executable else none

def parseServiceCommand (command : WString) : Option WString :=
  match command.dropWhile isBlank with
  | [] => none
  | first :: rest =>
    if first = quotationMark then
      match rest.dropWhile (· ≠ quotationMark) with
      | [] => none
      | _ :: argument =>
        let executable := rest.takeWhile (· ≠ quotationMark)
        if executable = [] then none else serviceExecutable executable argument
    else
      serviceExecutable ((first :: rest).takeWhile fun character => !isBlank character)
        ((first :: rest).dropWhile fun character => !isBlank character)

def quoteServiceCommand (servicePath : WString) : WString :=
  quotationMark :: servicePath ++ quotationMark :: " service".toList

/-- `std::isspace` in the C locale. -/
def isSpace (byte : UInt8) : Bool := byte == 32 || (9 ≤ byte && byte ≤ 13)

/-- `std::tolower` in the C locale. -/
def lowerByte (byte : UInt8) : UInt8 := if 65 ≤ byte && byte ≤ 90 then byte + 32 else byte

def infMarkers : List Bytes :=
  [utf8Bytes "classguid=\x7b4d36e968-e325-11ce-bfc1-08002be10318\x7d",
    utf8Bytes "provider=%manufacturername%",
    utf8Bytes "manufacturername=\"ladoflowproject\"",
    utf8Bytes "catalogfile=ladoflowidd.cat",
    utf8Bytes "ladoflowvirtualdisplay",
    utf8Bytes "umdfservice=ladoflowidd,ladoflowidd_service"]

/-- `compact.find(marker) != npos` -/
def containsMarker (marker : Bytes) : Bytes → Bool
  | [] => marker.isEmpty
  | byte :: rest => marker.isPrefixOf (byte :: rest) || containsMarker marker rest

def hasLadoFlowInfIdentity (bytes : Bytes) : Bool :=
  let compact := (bytes.filter fun byte => !isSpace byte).map lowerByte
  !bytes.contains 0 && infMarkers.all fun marker => containsMarker marker compact

def kMaximumInfBytes : Nat := 4 * 1024 * 1024

/-- The path of the directory of the helper; a path holds no quotation mark. -/
structure InstallRoot where
  path : WString
  unquoted : quotationMark ∉ path

def InstallRoot.servicePath (root : InstallRoot) : WString := joinPath root.path kServiceBinaryName

def InstallRoot.command (root : InstallRoot) : WString := quoteServiceCommand root.servicePath

theorem toLower_toLower (value : WString) : toLower (toLower value) = toLower value := by
  have hchar : ∀ character : Char, character.toLower.toLower = character.toLower := by
    intro character
    by_cases hupper : character.val ≥ 'A'.val ∧ character.val ≤ 'Z'.val
    · have hval : character.toLower.val = character.val + ('a'.val - 'A'.val) :=
        congrArg Char.val (dif_pos hupper)
      have hlower : ¬(character.toLower.val ≥ 'A'.val ∧ character.toLower.val ≤ 'Z'.val) := by
        rw [hval]
        simp only [ge_iff_le, UInt32.le_iff_toNat_le, UInt32.toNat_add] at hupper ⊢
        have ha : 'A'.val.toNat = 65 := rfl
        have hz : 'Z'.val.toNat = 90 := rfl
        have hstep : ('a'.val - 'A'.val).toNat = 32 := rfl
        omega
      exact dif_neg hlower
    · have hsame : character.toLower = character := dif_neg hupper
      rw [hsame, hsame]
  simp [toLower, hchar]

theorem isStrictPublishedInfName_toLower (value : WString) :
    isStrictPublishedInfName (toLower value) = isStrictPublishedInfName value := by
  simp only [isStrictPublishedInfName, toLower_toLower]

theorem takeWhile_append_stop {α : Type} {p : α → Bool} {as bs : List α} {b : α}
    (has : ∀ a ∈ as, p a = true) (hb : p b = false) :
    (as ++ b :: bs).takeWhile p = as ∧ (as ++ b :: bs).dropWhile p = b :: bs := by
  rw [List.takeWhile_append_of_pos has, List.dropWhile_append_of_pos has,
    List.takeWhile_cons_of_neg (by simp [hb]), List.dropWhile_cons_of_neg (by simp [hb]),
    List.append_nil]
  exact ⟨rfl, rfl⟩

/-- A joined path is a directory, closed by a separator, and the name in it. -/
theorem joinPath_split (base child : WString) : ∃ front, joinPath base child = front ++ child ∧
    (front = [] ∨ front.getLast? = some backslash) ∧
    ∀ character ∈ front, character ∈ base ∨ character = backslash := by
  rw [joinPath]
  split
  · rename_i h
    refine ⟨base, rfl, h, ?_⟩
    intro character hmem
    exact .inl hmem
  · refine ⟨base ++ [backslash], by simp, .inr (by simp), ?_⟩
    intro character hmem
    rcases List.mem_append.mp hmem with hbase | hlast
    · exact .inl hbase
    · exact .inr (List.mem_singleton.mp hlast)

namespace InstallRoot

variable (root : InstallRoot)

theorem servicePath_ne_nil : root.servicePath ≠ [] := by
  obtain ⟨front, hpath, -, -⟩ := joinPath_split root.path kServiceBinaryName
  rw [servicePath, hpath]
  exact List.append_ne_nil_of_right_ne_nil _ (by decide)

theorem servicePath_unquoted : ∀ character ∈ root.servicePath, character ≠ quotationMark := by
  obtain ⟨front, hpath, -, hfront⟩ := joinPath_split root.path kServiceBinaryName
  intro character hmem heq
  subst heq
  rw [servicePath, hpath] at hmem
  rcases List.mem_append.mp hmem with hmem | hmem
  · rcases hfront _ hmem with hbase | hslash
    · exact root.unquoted hbase
    · revert hslash
      decide
  · revert hmem
    decide

/-- The command that an install writes names the service binary of its root. -/
theorem parse_command : parseServiceCommand root.command = some root.servicePath := by
  have hblank : root.command.dropWhile isBlank = root.command := by
    rw [command, quoteServiceCommand]
    exact List.dropWhile_cons_of_neg (by decide)
  have hsplit := @takeWhile_append_stop _ (fun character => decide (character ≠ quotationMark))
    root.servicePath " service".toList quotationMark
    (fun character hmem => decide_eq_true (root.servicePath_unquoted character hmem)) (by decide)
  have hargument : serviceExecutable root.servicePath " service".toList =
      some root.servicePath := by
    rw [serviceExecutable, if_pos (by decide)]
  rw [parseServiceCommand, hblank, command, quoteServiceCommand]
  simp only [List.cons_append, if_true]
  rw [hsplit.2, hsplit.1]
  simp only [if_neg root.servicePath_ne_nil, hargument]

theorem baseName_servicePath : baseName root.servicePath = kServiceBinaryName := by
  obtain ⟨front, hpath, hfront, -⟩ := joinPath_split root.path kServiceBinaryName
  have hall : (kServiceBinaryName.reverse.all fun character => !isSeparator character) = true := by
    decide
  have hname := List.all_eq_true.mp hall
  rw [servicePath, hpath, baseName, List.reverse_append, List.takeWhile_append_of_pos hname]
  have hstop : front.reverse.takeWhile (fun character => !isSeparator character) = [] := by
    rcases hfront with rfl | hlast
    · rfl
    · obtain ⟨init, rfl⟩ := List.getLast?_eq_some_iff.mp hlast
      rw [List.reverse_append]
      exact List.takeWhile_cons_of_neg (by decide)
  rw [hstop, List.append_nil, List.reverse_reverse]

end InstallRoot

end LadoFlow.Windows
