import ResolverGrader.Proofs.CommandLine.AttachedValues
import ResolverGrader.Proofs.Program.Obstacles
import ResolverGrader.Proofs.QueryNames.Listing

/-!
# The names that are graded

The command line asks for names by itself and by a file that lists them.  The
names that are graded are the ones asked for, first those of the command line
and then those of the file, and the standard ones if none is asked for.

`requested_names_graded` follows them from the command line and the text of the
file to the trials that a grade is made of, and says what texts can list.
-/

namespace ResolverGrader.Program

open ResolverGrader.CommandLine ResolverGrader.Host ResolverGrader.Text

/-- The names that the file on a command line lists, if there is one. -/
inductive FileNames (files : FileSystem) (arguments : Arguments) :
    List String → Prop where
  | unnamed
      (absent : arguments.domainFile = none) :
      FileNames files arguments []
  | listed
      {path text : String} {names : List String}
      (named : arguments.domainFile = some path)
      (read : files.readText path = .ok text)
      (lists : QueryNames.Lists text.toList names) :
      FileNames files arguments names

section

variable {files : FileSystem} {arguments : Arguments}

/-- A file of names that can be read lists some, be it none. -/
theorem namesReadable_iff :
    NamesReadable files arguments ↔
      ∃ fromFile, FileNames files arguments fromFile := by
  constructor
  · intro readable
    cases named : arguments.domainFile with
    | none => exact ⟨[], .unnamed named⟩
    | some path =>
        obtain ⟨text, read⟩ := readable path named
        obtain ⟨names, lists⟩ := QueryNames.exists_lists text.toList
        exact ⟨names, .listed named read lists⟩
  · rintro ⟨fromFile, asked⟩ path named
    cases asked with
    | unnamed absent =>
        rw [absent] at named
        cases named
    | listed alsoNamed read lists =>
        rw [alsoNamed] at named
        obtain rfl := Option.some.inj named
        exact ⟨_, read⟩

theorem requestedNames_of_fileNames
    {fromFile : List String}
    (asked : FileNames files arguments fromFile) :
    requestedNames files arguments =
      .ok (QueryNames.choose arguments.domains fromFile) := by
  unfold requestedNames QueryNames.ofFile
  cases asked with
  | unnamed absent => rw [absent]
  | listed named read lists =>
      have found := (QueryNames.lists_iff _ _).mp lists
      simp only [named, read, found]

theorem names_of_prepare
    {requested names : List String} {settings : Settings}
    (asked : requestedNames files arguments = .ok requested)
    (prepared : prepare files arguments = .ok (settings, names)) :
    names = requested := by
  rw [prepare_of_requestedNames asked] at prepared
  split at prepared
  · cases prepared
  · split at prepared
    · cases prepared
    · exact (congrArg Prod.snd (Except.ok.inj prepared)).symm

end

/--
What is graded is what was asked for.  The names are those of the command line
in their order, followed by those that the file lists, or the standard names if
these are none at all; so there is always one.  Whatever happens to the
program, these are the names that it prepares for, and a grade is made of one
trial for each of them, in order.

A text lists what the lines of it name, a line feed between two texts divides
what they list, and names that a text lists may be written down one on a line,
with any usual ending of lines, to be listed again.
-/
theorem requested_names_graded
    (host : Host) (files : FileSystem) (arguments : Arguments) :
    (∀ fromFile, FileNames files arguments fromFile →
      let requested := arguments.domains ++ fromFile
      let names :=
        if requested = [] then QueryNames.standard else requested
      names ≠ [] ∧
        requestedNames files arguments = .ok names ∧
        (∀ settings graded,
          prepare files arguments = .ok (settings, graded) →
            graded = names ∧
              (run host arguments).runOn (.initial files) =
                (grade host arguments.output settings names).runOn
                  (begun files settings names)) ∧
        ∀ settings graded report built results tried,
          Graded host files arguments settings graded report built results
              tried →
            results.map Trial.queryName = names) ∧
    (NamesReadable files arguments ↔
      ∃ fromFile, FileNames files arguments fromFile) ∧
    (∀ values file,
      parse
          (values.map Switch.domain.attached ++
            file.toList.map Switch.domainFile.attached) =
        .ok
          { Arguments.standard with
            domains := values
            domainFile := file }) ∧
    (∀ text names,
      QueryNames.Lists text.toList names ↔
        QueryNames.ofText text = names) ∧
    (∀ first second : String,
      QueryNames.ofText (first ++ "\n" ++ second) =
        QueryNames.ofText first ++ QueryNames.ofText second) ∧
    ∀ text,
      let names := QueryNames.ofText text
      (∀ name ∈ names, QueryNames.IsListable name) ∧
        QueryNames.ofText (endLines names) = names ∧
        QueryNames.ofText (joinLines names) = names ∧
        QueryNames.ofText (endLines (names.map (· ++ "\r"))) = names := by
  refine ⟨?_, namesReadable_iff, parse_domains, QueryNames.lists_iff,
    QueryNames.ofText_append_newline, ?_⟩
  · intro fromFile asked requested names
    have chosen : requestedNames files arguments = .ok names :=
      requestedNames_of_fileNames asked
    refine ⟨QueryNames.choose_ne_nil _ _, chosen, ?_, ?_⟩
    · intro settings graded prepared
      obtain rfl := names_of_prepare chosen prepared
      exact ⟨rfl, run_of_prepared prepared host⟩
    · intro settings graded report built results tried made
      have same := names_of_prepare chosen made.prepared
      exact made.map_queryName.trans same
  · intro text names
    have listable : ∀ name ∈ names, QueryNames.IsListable name :=
      (QueryNames.exists_ofText_eq_iff names).mp ⟨text, rfl⟩
    have plain :=
      QueryNames.ofText_endLines listable "" List.not_mem_nil
        (List.forall_mem_nil _)
    have returned :=
      QueryNames.ofText_endLines listable "\r" (by decide)
        QueryNames.isBlank_of_mem_return
    simp only [String.append_empty, List.map_id'] at plain
    exact ⟨listable, plain, QueryNames.ofText_joinLines listable, returned⟩

/-- A file of names that is called `names` and lists the root. -/
def listingFiles : FileSystem :=
  FileSystem.bare.insert ["names"]
    (.file (Utf8.encode "# root\n.\r\n".toList) false)

/-- A command line that asks for a name by itself, and for those of a file. -/
def listingArguments : Arguments :=
  { existingBinary with domains := ["a"], domainFile := some "names" }

theorem requested_names_graded_listing :
    FileNames listingFiles listingArguments ["."] ∧
      requestedNames listingFiles listingArguments = .ok ["a", "."] ∧
      ∃ settings names report built results tried,
        Graded crashingHost listingFiles listingArguments settings names
            report built results tried ∧
          results.map Trial.queryName = ["a", "."] := by
  have lists : QueryNames.Lists "# root\n.\r\n".toList ["."] :=
    (QueryNames.lists_iff _ _).mpr (by decide +kernel)
  have read :
      listingFiles.readText "names" = .ok "# root\n.\r\n" := by
    decide +kernel
  have asked : FileNames listingFiles listingArguments ["."] :=
    .listed rfl read lists
  have succeeded :
      ((run crashingHost listingArguments).runOn
        (.initial listingFiles)).1 = .ok () := by
    decide +kernel
  obtain ⟨_, requested, _, named⟩ :=
    (requested_names_graded crashingHost listingFiles
      listingArguments).1 _ asked
  obtain ⟨settings, names, report, built, results, tried, graded⟩ :=
    graded_of_run_eq_ok succeeded
  exact ⟨asked, requested, settings, names, report, built, results,
    tried, graded, named _ _ _ _ _ _ graded⟩

end ResolverGrader.Program
