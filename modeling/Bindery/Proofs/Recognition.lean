import Mathlib.Data.List.Infix
import Bindery.Loading.Source
import Bindery.Proofs.Loads

/-!
# Which format is recognised

A file is YAML by the suffix of its name, in any case of letters, and what comes from a web address
is YAML by the end of the address, as written.  A name that is nothing but such an end has no
suffix.  Where both ways come to the same format, a text is read the same from a file and from the
web, although only the file has its line ends unified.
-/

namespace Bindery.Steps

theorem toOption_mapError {ε ε' α : Type} (image : ε → ε') (step : Except ε α) :
    (step.mapError image).toOption = step.toOption := by
  cases step with
  | error cause => rfl
  | ok value => rfl

end Bindery.Steps

namespace Bindery.Files.Path

/-! ## Suffixes -/

section

variable {ending : List Char} (longer : ending ≠ []) (undotted : '.' ∉ ending)
include longer undotted

theorem splitName_append {stem : List Char} (nonempty : stem ≠ []) :
    splitName (String.ofList (stem ++ '.' :: ending)) =
      (String.ofList stem, String.ofList ('.' :: ending)) := by
  have kept : ∀ c ∈ ending.reverse, decide (c ≠ '.') = true := by
    intro c member
    refine decide_eq_true fun dot => undotted ?_
    rw [← dot]
    exact List.mem_reverse.1 member
  have rest : (stem ++ '.' :: ending).reverse.takeWhile (· ≠ '.') = ending.reverse := by
    rw [List.reverse_append, List.reverse_cons, List.append_assoc, List.singleton_append,
      List.takeWhile_append_of_pos kept, List.takeWhile_cons_of_neg (by simp), List.append_nil]
  have length : (String.ofList (stem ++ '.' :: ending)).length - ending.reverse.length - 1 =
      stem.length := by
    rw [String.length_ofList, List.length_append, List.length_cons, List.length_reverse]
    omega
  simp only [splitName, String.toList_ofList, rest, length]
  simp [longer, nonempty]

/-- A name has a suffix if something stands before the last dot. -/
theorem suffix_eq_iff {name : String} :
    (splitName name).2 = String.ofList ('.' :: ending) ↔
      ∃ stem, stem ≠ [] ∧ name = String.ofList (stem ++ '.' :: ending) := by
  constructor
  · intro same
    rw [splitName] at same
    generalize taken : name.toList.reverse.takeWhile (· ≠ '.') = rest at same
    have whole := @List.takeWhile_append_dropWhile _ (· ≠ '.') name.toList.reverse
    have dotted := List.head?_dropWhile_not (· ≠ '.') name.toList.reverse
    rw [taken] at whole
    split at same
    · cases String.ofList_injective (same : String.ofList [] = _)
    · next some =>
        simp only [Bool.or_eq_true, List.isEmpty_iff, not_or] at some
        obtain ⟨-, rfl⟩ := List.cons.inj (String.ofList_injective same)
        cases behind : name.toList.reverse.dropWhile (· ≠ '.') with
        | nil =>
            rw [behind, List.append_nil] at whole
            have none : name.length - rest.length - 1 = 0 := by
              rw [← String.length_toList, ← List.length_reverse, ← whole]
              omega
            exact absurd (by rw [none, List.take_zero]) some.2
        | cons c before =>
            rw [behind] at whole dotted
            have isDot : c = '.' := by simpa using dotted
            have spelled : name.toList = before.reverse ++ '.' :: rest.reverse := by
              rw [← List.reverse_reverse name.toList, ← whole, isDot]
              simp
            refine ⟨before.reverse, ?_, by rw [← spelled, String.ofList_toList]⟩
            intro empty
            have none : name.length - rest.length - 1 = 0 := by
              rw [← String.length_toList, spelled, empty]
              simp
            exact absurd (by rw [none, List.take_zero]) some.2
  · intro there
    obtain ⟨stem, nonempty, rfl⟩ := there
    rw [splitName_append longer undotted nonempty]

/-- A name ends with a dot and other characters if they are the name or its suffix. -/
theorem isSuffix_iff {name : String} :
    '.' :: ending <:+ name.toList ↔
      name = String.ofList ('.' :: ending) ∨
        (splitName name).2 = String.ofList ('.' :: ending) := by
  rw [suffix_eq_iff longer undotted]
  constructor
  · intro ends
    obtain ⟨stem, whole⟩ := ends
    have named : name = String.ofList (stem ++ '.' :: ending) := by
      rw [whole, String.ofList_toList]
    cases stem with
    | nil => exact .inl named
    | cons c stem => exact .inr ⟨c :: stem, List.cons_ne_nil c stem, named⟩
  · intro either
    cases either with
    | inl whole =>
        rw [whole, String.toList_ofList]
    | inr there =>
        obtain ⟨stem, -, rfl⟩ := there
        rw [String.toList_ofList]
        exact List.suffix_append _ _

end

end Bindery.Files.Path

namespace Bindery.Loading

open Bindery.Api Bindery.Data Bindery.Files Bindery.Files.Tree Bindery.Format Bindery.Steps

/-! ## Formats -/

/-- The suffixes of names that stand for YAML. -/
def yamlSuffixes : List String := [".yaml", ".yml"]

theorem endsWith_iff {text ending : String} :
    text.endsWith ending = true ↔ ending.toList <:+ text.toList := by
  rw [← String.endsWith_toSlice, String.Slice.endsWith_string_iff, String.copy_toSlice]

/-- What follows the last slash tells how an address ends. -/
theorem suffix_append_slash_iff {ending : List Char} (unslashed : '/' ∉ ending)
    (start name : List Char) : ending <:+ start ++ '/' :: name ↔ ending <:+ name := by
  constructor
  · intro ends
    cases List.suffix_or_suffix_of_suffix ends (List.suffix_append start ('/' :: name)) with
    | inl shorter =>
        cases List.suffix_cons_iff.1 shorter with
        | inl whole =>
            rw [whole] at unslashed
            exact absurd List.mem_cons_self unslashed
        | inr inName => exact inName
    | inr longer => exact absurd (longer.subset List.mem_cons_self) unslashed
  · intro ends
    exact (ends.trans (List.suffix_cons '/' name)).trans (List.suffix_append start _)

section

variable {start name : String}

theorem endsWith_address_iff (ending : List Char) (longer : ending ≠ []) (undotted : '.' ∉ ending)
    (unslashed : '/' ∉ ending) :
    (start ++ "/" ++ name).endsWith (String.ofList ('.' :: ending)) = true ↔
      name = String.ofList ('.' :: ending) ∨
        (Path.splitName name).2 = String.ofList ('.' :: ending) := by
  have spelled : (start ++ "/" ++ name).toList = start.toList ++ '/' :: name.toList := by
    simp [String.toList_append]
  have slashless : '/' ∉ '.' :: ending := by simp [unslashed]
  rw [endsWith_iff, String.toList_ofList, spelled, suffix_append_slash_iff slashless,
    Path.isSuffix_iff longer undotted]

/-- What comes from the web without a type is YAML if the last part of the address is, or has, a
suffix that stands for YAML. -/
theorem ofResponse_eq_yaml_iff {response : Response}
    (untyped : response.header? "content-type" = none) :
    DataFormat.ofResponse (start ++ "/" ++ name) response = .yaml ↔
      name ∈ yamlSuffixes ∨ (Path.splitName name).2 ∈ yamlSuffixes := by
  have long : (start ++ "/" ++ name).endsWith ".yaml" = true ↔
      name = ".yaml" ∨ (Path.splitName name).2 = ".yaml" :=
    endsWith_address_iff "yaml".toList (by simp) (by simp) (by simp)
  have short : (start ++ "/" ++ name).endsWith ".yml" = true ↔
      name = ".yml" ∨ (Path.splitName name).2 = ".yml" :=
    endsWith_address_iff "yml".toList (by simp) (by simp) (by simp)
  have noType : Code.Literal.occursIn "yaml".toList "".toList = false := by decide
  simp only [DataFormat.ofResponse, untyped, Option.getD_none, noType, Bool.false_or,
    Bool.or_eq_true, long, short, yamlSuffixes, List.mem_cons, List.not_mem_nil, or_false]
  split
  · next ends => exact iff_of_true rfl (or_or_or_comm.1 ends)
  · next ends => exact iff_of_false nofun (mt or_or_or_comm.1 ends)

theorem ofSuffix_eq_yaml_iff {suffix : String} :
    DataFormat.ofSuffix suffix = .yaml ↔ Text.lower suffix ∈ yamlSuffixes := by
  rw [DataFormat.ofSuffix]
  split
  · next small => exact iff_of_true rfl small
  · next other => exact iff_of_false nofun other

theorem DataFormat.eq_iff {first second : DataFormat} :
    first = second ↔ (first = .yaml ↔ second = .yaml) := by
  cases first <;> cases second <;> decide

theorem DataFormat.eq_json_of_ne {format : DataFormat} (other : format ≠ .yaml) :
    format = .json := by
  cases format with
  | json => rfl
  | yaml => exact absurd rfl other

theorem lower_of_mem_yamlSuffixes :
    ∀ suffix ∈ yamlSuffixes, Text.lower suffix = suffix := by
  decide +kernel

theorem lower_suffix_of_mem_yamlSuffixes :
    ∀ name ∈ yamlSuffixes, Text.lower (Path.splitName name).2 ∉ yamlSuffixes := by
  decide +kernel

/-- A file and an address that end with the same name are of one format, unless the name is nothing
but a suffix, or has one that is spelled with capital letters. -/
theorem ofSuffix_eq_ofResponse_iff {response : Response}
    (untyped : response.header? "content-type" = none) :
    DataFormat.ofSuffix (Path.splitName name).2 =
        DataFormat.ofResponse (start ++ "/" ++ name) response ↔
      name ∉ yamlSuffixes ∧ (Text.lower (Path.splitName name).2 ∈ yamlSuffixes →
        (Path.splitName name).2 ∈ yamlSuffixes) := by
  rw [DataFormat.eq_iff, ofSuffix_eq_yaml_iff, ofResponse_eq_yaml_iff untyped]
  constructor
  · intro same
    refine ⟨fun bare => ?_, fun small => ?_⟩
    · exact lower_suffix_of_mem_yamlSuffixes name bare (same.2 (.inl bare))
    · cases same.1 small with
      | inl bare => exact absurd small (lower_suffix_of_mem_yamlSuffixes name bare)
      | inr suffix => exact suffix
  · intro apart
    refine ⟨fun small => .inr (apart.2 small), fun either => ?_⟩
    cases either with
    | inl bare => exact absurd bare apart.1
    | inr suffix =>
        rw [lower_of_mem_yamlSuffixes _ suffix]
        exact suffix

end

/-! ## Texts from files and from the web -/

/-- A source that is no web address names a file with a text. -/
structure Keeps (tree : Tree) (base : Base) (file text : String) : Prop where
  noUrl : isUrl file = false
  held : ∃ content, tree.content (base.inTree (Path.parse file)) = .ok content ∧
    content.Holds text

/-- A source is a web address that can be asked for, and the answer brings a text without a word
about its type. -/
structure Brings (web : Web) (url text : String) (response : Response) : Prop where
  isUrl : isUrl url = true
  asked : ∃ address, Address.read url.toList = .ok address ∧
    address.asked.checkHost = .ok () ∧ web address.asked.text = .response response
  success : response.status = 200
  untyped : response.header? "content-type" = none
  ascii : response.notAscii? = none
  content : response.content = .ok text.toUTF8.toList

theorem load_of_keeps {web : Web} {tree : Tree} {base : Base} {file text : String}
    (kept : Keeps tree base file text) :
    load web tree base file =
      parse file (.ofSuffix (Path.parse file).suffix)
        (String.ofList (plainLineEnds text.toList)) >>= accept file := by
  obtain ⟨content, found, holds⟩ := kept.held
  have read : readSource tree base file = .ok (String.ofList (plainLineEnds text.toList)) := by
    rw [readSource_of_content found, holds.read_eq]
    rfl
  rw [load, kept.noUrl]
  exact loadFile_of_ok read

theorem Response.textOf_toUTF8 {response : Response}
    (untyped : response.header? "content-type" = none) (text : String) :
    response.textOf text.toUTF8.toList = .ok text := by
  have read : Charset.readPlain Charset.readUtf8 text.toUTF8.toList = text.toList := by
    rw [Utf8.toList_toUTF8, Charset.readPlain_encode]
  have charset : response.charset = .utf8 false := by
    rw [Response.charset, untyped]
    rfl
  rw [Response.textOf, charset]
  split
  · next empty =>
      have nothing : Charset.readPlain Charset.readUtf8 [] = [] := Charset.readPlain_encode []
      rw [List.isEmpty_iff.1 empty, nothing] at read
      rw [String.toList_eq_nil_iff.1 read.symm]
  · rw [Charset.decode, if_neg Bool.false_ne_true, read]
    exact congrArg Except.ok String.ofList_toList

theorem load_of_brings {web : Web} {tree : Tree} {base : Base} {url text : String}
    {response : Response} (brought : Brings web url text response) :
    load web tree base url =
      parse url (.ofResponse url response) text >>= accept url := by
  obtain ⟨address, read, checked, answered⟩ := brought.asked
  have success : response.isSuccess = true := by simp [Response.isSuccess, brought.success]
  have passes : checkStatus url address.asked response = .ok () := by
    rw [checkStatus, success]
    rfl
  have brings : textOf url address.asked response = .ok text := by
    simp only [textOf, brought.ascii, brought.content, Except.mapError, bind, Except.bind, passes,
      Response.textOf_toUTF8 brought.untyped]
  simp only [load, brought.isUrl, if_true, loadFromWeb, read, checked, answered, brings,
    Except.mapError, bind, Except.bind]

/-- Data that is read from a text does not depend on how lines end, and not on the source that the
text is from. -/
theorem toOption_parse_plainLineEnds (source other : String) (format : DataFormat) (text : String) :
    (parse source format (String.ofList (plainLineEnds text.toList))).toOption =
      (parse other format text).toOption := by
  cases format with
  | json =>
      have reflowed : Text.Reflowed text.toList
          (String.ofList (plainLineEnds text.toList)).toList := by
        rw [String.toList_ofList]
        exact .plainLineEnds text.toList
      rw [parse, parse, toOption_mapError, toOption_mapError, Json.toOption_read_eq reflowed]
  | yaml => rw [parse, parse, toOption_mapError, toOption_mapError, Yaml.read_plainLineEnds]

/-- Two loads end with the same description, with the same issues of what was read, or both with
something that cannot be read. -/
inductive EndAlike (first second : String) :
    Except LoadError Document → Except LoadError Document → Prop where
  | document (document : Document) : EndAlike first second (.ok document) (.ok document)
  | issues (issues : List String) : EndAlike first second
      (.error (.fault (.invalidDocument first issues)))
      (.error (.fault (.invalidDocument second issues)))
  | unread {format : DataFormat} {text other : String} {cause otherCause : LoadError} :
      parse first format text = .error cause → parse second format other = .error otherCause →
      EndAlike first second (.error cause) (.error otherCause)

theorem endAlike_accept (first second : String) (content : Value) :
    EndAlike first second (accept first content) (accept second content) := by
  rw [accept, accept]
  split
  · exact .document _
  · exact .issues _

theorem endAlike_of_toOption_eq {first second text other : String} {format : DataFormat}
    (same : (parse first format text).toOption = (parse second format other).toOption) :
    EndAlike first second (parse first format text >>= accept first)
      (parse second format other >>= accept second) := by
  cases read : parse first format text with
  | ok content =>
      rw [read] at same
      rw [toOption_eq_some_iff.1 same.symm]
      exact endAlike_accept first second content
  | error cause =>
      cases readOther : parse second format other with
      | ok content =>
          rw [read, readOther] at same
          cases same
      | error otherCause => exact .unread read readOther

/-- A text that is loaded from a file and from a web address that ends with the name of the file is
read in the same format, unless the name is nothing but a suffix for YAML, or has one that is
spelled with capital letters.  In the same format both loads end alike. -/
theorem recognised_alike_iff {web : Web} {tree : Tree} {base : Base}
    {file url start name text : String} {response : Response} (kept : Keeps tree base file text)
    (brought : Brings web url text response) (named : (Path.parse file).name = name)
    (ends : url = start ++ "/" ++ name) :
    (load web tree base file =
      parse file (.ofSuffix (Path.parse file).suffix)
        (String.ofList (plainLineEnds text.toList)) >>= accept file) ∧
    (load web tree base url = parse url (.ofResponse url response) text >>= accept url) ∧
    (DataFormat.ofSuffix (Path.parse file).suffix = DataFormat.ofResponse url response ↔
      name ∉ yamlSuffixes ∧ (Text.lower (Path.parse file).suffix ∈ yamlSuffixes →
        (Path.parse file).suffix ∈ yamlSuffixes)) ∧
    (DataFormat.ofSuffix (Path.parse file).suffix = DataFormat.ofResponse url response →
      EndAlike file url (load web tree base file) (load web tree base url)) := by
  refine ⟨load_of_keeps kept, load_of_brings brought, ?_, fun same => ?_⟩
  · rw [Path.suffix, named, ends]
    exact ofSuffix_eq_ofResponse_iff brought.untyped
  · rw [load_of_keeps kept, load_of_brings brought, ← same]
    exact endAlike_of_toOption_eq (toOption_parse_plainLineEnds file url _ text)

/-! ## A file and an address -/

/-- The web that answers every request with a text. -/
def answering (text : String) : Web := fun _ => .response { status := 200, body := text }

theorem keeps_ofFile {name text : String} (fileName : IsFileName name)
    (noUrl : isUrl name = false) : Keeps (.ofFile name (.text text)) atHome name text := by
  refine ⟨noUrl, .text text, ?_, .text text⟩
  rw [fileName.parse_eq]
  exact content_of_held fileName List.lookup_cons_self

theorem brings_answering {url text : String} (isAddress : isUrl url = true)
    (asked : (Address.read url.toList).toOption.map
      (fun address => address.asked.checkHost.toOption) = some (some ())) :
    Brings (answering text) url text { status := 200, body := text } := by
  obtain ⟨address, read, checked⟩ := toOption_map_eq_some_iff.1 asked
  exact ⟨isAddress, ⟨address, read, toOption_eq_some_iff.1 checked, rfl⟩, rfl, rfl, rfl, rfl⟩

/-- A description in YAML with line ends of two characters, as a file and from the web. -/
theorem small_suffix_alike :
    DataFormat.ofSuffix (Path.parse "api.yaml").suffix = .yaml ∧
      EndAlike "api.yaml" "http://a.test/api.yaml"
        (load (answering "title: x\r\n") (.ofFile "api.yaml" (.text "title: x\r\n")) atHome
          "api.yaml")
        (load (answering "title: x\r\n") (.ofFile "api.yaml" (.text "title: x\r\n")) atHome
          "http://a.test/api.yaml") := by
  have fileName : IsFileName "api.yaml" := by
    refine ⟨by decide, by simp, by simp, by decide, by decide⟩
  have kept : Keeps (.ofFile "api.yaml" (.text "title: x\r\n")) atHome "api.yaml" "title: x\r\n" :=
    keeps_ofFile fileName (by decide +kernel)
  have brought : Brings (answering "title: x\r\n") "http://a.test/api.yaml" "title: x\r\n"
      { status := 200, body := "title: x\r\n" } :=
    brings_answering (by decide +kernel) (by decide +kernel)
  have named : (Path.parse "api.yaml").name = "api.yaml" := by decide +kernel
  have ends : "http://a.test/api.yaml" = "http://a.test" ++ "/" ++ "api.yaml" := by decide +kernel
  obtain ⟨-, -, same, alike⟩ := recognised_alike_iff kept brought named ends
  have small : "api.yaml" ∉ yamlSuffixes ∧
      (Text.lower (Path.parse "api.yaml").suffix ∈ yamlSuffixes →
        (Path.parse "api.yaml").suffix ∈ yamlSuffixes) := by
    decide +kernel
  exact ⟨by decide +kernel, alike (same.2 small)⟩

theorem read_title_ne_ok (content : Value) : Json.read "title: x" ≠ .ok content := by
  intro read
  have start : Json.skip "title: x".toList = 't' :: "itle: x".toList := by decide +kernel
  have noScalar : (Json.scalar ('t' :: "itle: x".toList)).toOption.isNone = true := by
    decide +kernel
  obtain ⟨-, left, reads, -⟩ := Json.read_eq_ok_iff.1 read
  rw [start] at reads
  cases reads with
  | scalar _ found =>
      rw [found] at noScalar
      cases noScalar

/-- A description in YAML whose name has capital letters is read from the file, and is no JSON from
the web. -/
theorem capital_suffix_apart :
    Keeps (.ofFile "API.YAML" (.text "title: x")) atHome "API.YAML" "title: x" ∧
    Brings (answering "title: x") "http://a.test/API.YAML" "title: x"
      { status := 200, body := "title: x" } ∧
    (∃ document, load (answering "title: x") (.ofFile "API.YAML" (.text "title: x")) atHome
      "API.YAML" = .ok document) ∧
    ∀ document, load (answering "title: x") (.ofFile "API.YAML" (.text "title: x")) atHome
      "http://a.test/API.YAML" ≠ .ok document := by
  have fileName : IsFileName "API.YAML" := by
    refine ⟨by decide, by simp, by simp, by decide, by decide⟩
  have kept : Keeps (.ofFile "API.YAML" (.text "title: x")) atHome "API.YAML" "title: x" :=
    keeps_ofFile fileName (by decide +kernel)
  have brought : Brings (answering "title: x") "http://a.test/API.YAML" "title: x"
      { status := 200, body := "title: x" } :=
    brings_answering (by decide +kernel) (by decide +kernel)
  refine ⟨kept, brought, ?_, ?_⟩
  · have loaded : ((parse "API.YAML" (.ofSuffix (Path.parse "API.YAML").suffix)
        (String.ofList (plainLineEnds "title: x".toList)) >>=
          accept "API.YAML").toOption).isSome = true := by
      decide +kernel
    rw [load_of_keeps kept]
    exact isSome_toOption_iff.1 loaded
  · have url : "http://a.test/API.YAML" = "http://a.test" ++ "/" ++ "API.YAML" := by
      decide +kernel
    have isJson : DataFormat.ofResponse "http://a.test/API.YAML"
        { status := 200, body := "title: x" } = .json := by
      rw [url]
      exact DataFormat.eq_json_of_ne (mt (ofResponse_eq_yaml_iff rfl).1 (by decide +kernel))
    intro document loaded
    rw [load_of_brings brought, isJson] at loaded
    obtain ⟨content, parsed, -⟩ := bind_eq_ok_iff.1 loaded
    exact read_title_ne_ok content (mapError_eq_ok_iff.1 parsed)

end Bindery.Loading
