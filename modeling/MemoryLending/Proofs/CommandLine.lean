/-
This file follows the two products of the settings back to the words they were made of. Every side
of a frame that was read is below `2 ^ 32`, and the command line gives a frame two sides or more;
only the environment can leave it with one. The length of a frame and the budget of the reserve
come out exactly as long as they are machine words, and a product beyond that is a panic, as is a
frame with a single side.
-/

import Mathlib
import MemoryLending.Settings.CommandLine

namespace MemoryLending

/-! ### The products -/

namespace Settings

variable {settings : Settings}

theorem product_eq (left right : Nat) :
    product left right =
      if left * right < Word.limit then .ok (left * right) else .error .mulOverflow := by
  unfold product Word.mul?
  by_cases fits : left * right < Word.limit
  · rw [if_pos fits, if_pos fits]
  · rw [if_neg fits, if_neg fits]

/-- Two products in a row fit if and only if the second does, as long as its factor is not zero. -/
theorem product_bind_eq {Value : Type} (left middle right : Nat) (positive : 0 < right)
    (rest : Nat → Except Panic Value) :
    (product left middle >>= fun part => product part right >>= rest) =
      if left * middle * right < Word.limit then rest (left * middle * right)
      else .error .mulOverflow := by
  have part : left * middle ≤ left * middle * right := Nat.le_mul_of_pos_right _ positive
  rw [product_eq left middle]
  by_cases fits : left * middle < Word.limit
  · rw [if_pos fits]
    show (product (left * middle) right >>= rest) = _
    rw [product_eq]
    split <;> rfl
  · rw [if_neg fits, if_neg (by omega)]
    rfl

/-- A frame with two sides has two bytes for each pixel, if that is a machine word. -/
theorem frameLength_eq {width height : Nat} {later : List Nat}
    (sides : settings.frameSize = width :: height :: later) :
    settings.frameLength =
      if 2 * width * height < Word.limit then .ok (2 * width * height)
      else .error .mulOverflow := by
  have commuted : width * height * 2 = 2 * width * height := by
    rw [Nat.mul_comm, Nat.mul_assoc]
  unfold frameLength side
  rw [sides]
  show (product width height >>= fun pixels => product pixels 2) = _
  have twice := product_bind_eq width height 2 (by decide) Except.ok
  rw [commuted] at twice
  rw [← twice]
  exact bind_congr fun pixels => (bind_pure _).symm

/-- A frame with a single side has no height. -/
theorem frameLength_of_single {width : Nat} (sides : settings.frameSize = [width]) :
    settings.frameLength = .error (.outOfBounds 1 1) := by
  unfold frameLength side
  rw [sides]
  rfl

/-- The reserve keeps as many bytes as the operator's MiB hold, if that is a machine word. -/
theorem policy_eq_ite (settings : Settings) :
    settings.policy =
      if settings.retainMebibytes * 2 ^ 20 < Word.limit then
        .ok ⟨⟨settings.retainMebibytes * 2 ^ 20, settings.retainBlocks⟩, settings.unknownReturn⟩
      else .error .mulOverflow := by
  have power : settings.retainMebibytes * 1024 * 1024 = settings.retainMebibytes * 2 ^ 20 :=
    Nat.mul_assoc _ 1024 1024
  unfold policy
  rw [product_bind_eq settings.retainMebibytes 1024 1024 (by decide), power]
  rfl

end Settings

/-! ### Values -/

theorem readNumber?_lt {bound number : Nat} {text : String}
    (read : readNumber? bound text = some number) : number < bound := by
  unfold readNumber? at read
  exact of_decide_eq_true (Option.filter_eq_some_iff.mp read).2

theorem readSide?_lt {side : Nat} {text : String} (read : readSide? text = some side) :
    side < UInt32.size := by
  unfold readSide? at read
  split at read
  · have zero : side = 0 := of_decide_eq_true (Option.filter_eq_some_iff.mp read).2
    rw [zero]
    decide
  · exact readNumber?_lt read

/-- Splitting a text finds at least one more piece than were found before. -/
theorem length_lt_splitOnAux (text separator : String) (start here there : String.Pos.Raw)
    (found : List String) :
    found.length < (text.splitOnAux separator start here there found).length := by
  fun_induction String.splitOnAux text separator start here there found with
  | case1 start here there found atEnd pieces =>
    rw [List.length_reverse]
    exact Nat.lt_succ_self _
  | case2 start here there found _ _ _ _ _ inductionHypothesis =>
    exact Nat.lt_of_succ_lt inductionHypothesis
  | case3 start here there found _ _ _ _ _ inductionHypothesis => exact inductionHypothesis
  | case4 start here there found _ _ inductionHypothesis => exact inductionHypothesis

theorem splitOn_length_pos (text : String) : 0 < (text.splitOn " ").length :=
  length_lt_splitOnAux text " " 0 0 0 []

theorem length_le_pieces (words : List String) :
    words.length ≤ (words.flatMap (·.splitOn " ")).length := by
  induction words with
  | nil => exact Nat.le_refl _
  | cons word later inductionHypothesis =>
    have pieces := splitOn_length_pos word
    rw [List.flatMap_cons, List.length_append, List.length_cons]
    omega

namespace Draft

variable {draft after : Draft} {setting : Setting}

/-- A step of a reading and what comes after it. -/
theorem exists_of_bind {Middle Value : Type} {step : Except Mistake Middle}
    {rest : Middle → Except Mistake Value} {value : Value} (read : step >>= rest = .ok value) :
    ∃ middle, step = .ok middle ∧ rest middle = .ok value := by
  cases step with
  | error mistake => cases read
  | ok middle => exact ⟨middle, rfl, read⟩

theorem number_eq_ok {read? : String → Option Nat} {value : String} {number : Nat}
    (read : Draft.number setting read? value = .ok number) : read? value = some number := by
  unfold Draft.number at read
  split at read
  · rename_i found
    rw [found, Except.ok.inj read]
  · cases read

/-- Sides that were read from pieces of text: one for each piece, and none too long. -/
theorem sides_of_pieces {pieces : List String} {sides : List Nat}
    (read : pieces.mapM (Draft.number .frameSize readSide?) = .ok sides) :
    sides.length = pieces.length ∧ ∀ side ∈ sides, side < UInt32.size := by
  induction pieces generalizing sides with
  | nil =>
    cases read
    exact ⟨rfl, nofun⟩
  | cons piece later inductionHypothesis =>
    rw [List.mapM_cons] at read
    obtain ⟨side, first, others⟩ := exists_of_bind read
    obtain ⟨more, second, last⟩ := exists_of_bind others
    cases last
    obtain ⟨length, small⟩ := inductionHypothesis second
    refine ⟨congrArg (· + 1) length, fun member found => ?_⟩
    rcases List.mem_cons.mp found with rfl | found
    · exact readSide?_lt (number_eq_ok first)
    · exact small member found

/-! ### Drafts -/

/-- What every draft keeps: sides that are short, and MiB that were read as a machine word. -/
structure Legible (draft : Draft) : Prop where
  sides : ∀ side ∈ draft.settings.frameSize, side < UInt32.size
  retained : draft.settings.retainMebibytes < Word.limit

/-- What a draft keeps as well while the command line is read: a frame has two sides or more. -/
structure Framed (draft : Draft) : Prop extends Legible draft where
  pair : 2 ≤ draft.settings.frameSize.length

theorem framed_blank : Framed blank where
  sides := by decide
  retained := by decide
  pair := by decide

/-- A single value leaves the frame alone, and what it puts into the budget is a machine word. -/
structure Changing (draft after : Draft) : Prop where
  given : after.given = draft.given
  frameSize : after.settings.frameSize = draft.settings.frameSize
  retained : draft.settings.retainMebibytes < Word.limit →
    after.settings.retainMebibytes < Word.limit

theorem exists_of_written {Value : Type} {read : Except Mistake Value} {write : Value → Settings}
    (written : (do
      let changed ← read.map write
      return { draft with settings := changed }) = .ok after) :
    ∃ value, read = .ok value ∧ after = { draft with settings := write value } := by
  cases read with
  | error mistake => cases written
  | ok value =>
    cases written
    exact ⟨value, rfl, rfl⟩

theorem changing_put {value : String} (read : draft.put setting value = .ok after) :
    Changing draft after := by
  unfold Draft.put at read
  cases setting
  case retainMebibytes =>
    obtain ⟨number, word, rfl⟩ := exists_of_written read
    exact ⟨rfl, rfl, fun _ => readNumber?_lt (number_eq_ok word)⟩
  case frameSize | help | version =>
    cases read
    exact ⟨rfl, rfl, id⟩
  all_goals
    obtain ⟨_, -, rfl⟩ := exists_of_written read
    exact ⟨rfl, rfl, id⟩

/-- The sides in some words stand behind those that the command line has given before. -/
theorem putSides_of_ok {words : List String} (read : draft.putSides words = .ok after) :
    ∃ sides : List Nat,
      after = { draft with
        settings := { draft.settings with
          frameSize := (if .frameSize ∈ draft.given then draft.settings.frameSize else []) ++
            sides } } ∧
      sides.length = (words.flatMap (·.splitOn " ")).length ∧
      ∀ side ∈ sides, side < UInt32.size := by
  unfold putSides at read
  obtain ⟨sides, pieces, last⟩ := exists_of_bind read
  cases last
  exact ⟨sides, rfl, sides_of_pieces pieces⟩

theorem Changing.legible (changing : Changing draft after) (legible : Legible draft) :
    Legible after where
  sides := changing.frameSize.symm ▸ legible.sides
  retained := changing.retained legible.retained

theorem Changing.framed (changing : Changing draft after) (framed : Framed draft) :
    Framed after :=
  { changing.legible framed.toLegible with pair := changing.frameSize.symm ▸ framed.pair }

theorem Legible.putSides {words : List String} (legible : Legible draft)
    (read : draft.putSides words = .ok after) : Legible after := by
  obtain ⟨sides, rfl, -, small⟩ := putSides_of_ok read
  refine ⟨fun side member => ?_, legible.retained⟩
  rcases List.mem_append.mp member with before | new
  · split at before
    · exact legible.sides side before
    · cases before
  · exact small side new

/-- Two words give two sides or more, behind whatever was given before. -/
theorem Framed.putSides {words : List String} (framed : Framed draft) (two : 2 ≤ words.length)
    (read : draft.putSides words = .ok after) : Framed after := by
  refine { framed.toLegible.putSides read with pair := ?_ }
  obtain ⟨sides, rfl, length, -⟩ := putSides_of_ok read
  have pieces := length_le_pieces words
  show 2 ≤ (_ ++ sides).length
  rw [List.length_append]
  omega

theorem Framed.mark (framed : Framed draft) (setting : Setting) : Framed (draft.mark setting) :=
  ⟨⟨framed.sides, framed.retained⟩, framed.pair⟩

/-! ### The command line -/

theorem framed_of_marked {read : Except Mistake Draft}
    (marked : read.map (·.mark setting) = .ok after)
    (each : ∀ changed, read = .ok changed → Framed changed) : Framed after := by
  cases read with
  | error mistake => cases marked
  | ok changed =>
    cases marked
    exact (each changed rfl).mark setting

theorem Framed.supply {words : List String} (framed : Framed draft)
    (read : draft.supply setting words = .ok after) : Framed after := by
  unfold Draft.supply at read
  split at read
  · cases read
  split at read
  · cases read
  rename_i none count
  split at read
  · -- the frame size is the one option that takes two words
    rename_i chosen
    refine framed_of_marked read fun changed sides => framed.putSides ?_ sides
    rw [Classical.not_not.mp count, chosen]
    exact Nat.le_refl 2
  split at read
  · cases read
  · cases words with
    | nil => cases read; exact framed
    | cons value later =>
      exact framed_of_marked read fun changed put => (changing_put put).framed framed

theorem Framed.raise (framed : Framed draft) (read : draft.raise setting = .ok after) :
    Framed after := by
  unfold Draft.raise at read
  split at read
  · cases read
  · cases read
  split at read
  · cases read
  · exact framed_of_marked read fun changed put => (changing_put put).framed framed

theorem Framed.settle {pending : Option (Setting × List String)} (framed : Framed draft)
    (read : draft.settle pending = .ok after) : Framed after := by
  cases pending with
  | none =>
    cases read
    exact framed
  | some option => exact framed.supply read

theorem Framed.letters {letters : List Char} (framed : Framed draft)
    (read : draft.letters letters = .ok after) : Framed after := by
  induction letters generalizing draft with
  | nil =>
    cases read
    exact framed
  | cons letter later inductionHypothesis =>
    unfold Draft.letters at read
    split at read
    · obtain ⟨raised, first, others⟩ := exists_of_bind read
      exact inductionHypothesis (framed.raise first) others
    · cases read

/-- Whatever the words are, an accepted command line leaves a frame with two sides or more. -/
theorem Framed.readWords {words : List String} {pending : Option (Setting × List String)}
    (framed : Framed draft) (read : draft.readWords pending words = .ok after) :
    Framed after := by
  induction words generalizing draft pending with
  | nil => exact framed.settle read
  | cons word later inductionHypothesis =>
    unfold Draft.readWords at read
    split at read
    · -- the dashes that end the options
      cases later with
      | nil => exact framed.settle read
      | cons extra others => cases read
    · cases read
    · -- letters
      split at read
      · cases read
      · obtain ⟨settled, first, others⟩ := exists_of_bind read
        obtain ⟨raised, second, last⟩ := exists_of_bind others
        exact inductionHypothesis ((framed.settle first).letters second) last
    · -- an option by its word
      split at read
      · cases read
      split at read
      · cases read
      · obtain ⟨settled, first, others⟩ := exists_of_bind read
        obtain ⟨raised, second, last⟩ := exists_of_bind others
        exact inductionHypothesis ((framed.settle first).raise second) last
      · obtain ⟨settled, first, others⟩ := exists_of_bind read
        obtain ⟨supplied, second, last⟩ := exists_of_bind others
        exact inductionHypothesis ((framed.settle first).supply second) last
      · obtain ⟨settled, first, others⟩ := exists_of_bind read
        exact inductionHypothesis (framed.settle first) others
    · -- a word for the option before
      split at read
      · cases read
      split at read
      · exact inductionHypothesis framed read
      · cases read

/-! ### The environment -/

/-- The value that the environment has for a setting that the command line has not given. -/
theorem environment_of_asked {environment : String → Option String} {value : String}
    (asked : (if setting ∈ draft.given then none else setting.environmentName?.bind environment) =
      some value) :
    setting ∉ draft.given ∧ setting.environmentName?.bind environment = some value := by
  split at asked
  · cases asked
  · rename_i open_
    exact ⟨open_, asked⟩

/-- What the environment does to a draft when it is asked about some settings. -/
structure Asked (environment : String → Option String) (settings : List Setting)
    (draft after : Draft) : Prop where
  given : after.given = draft.given
  legible : Legible draft → Legible after
  /-- A frame size that the command line has not given is the one of the environment. -/
  answered : ∀ text, .frameSize ∈ settings → .frameSize ∉ draft.given →
    environment "FRAME_SIZE" = some text →
    after.settings.frameSize.length = (text.splitOn " ").length
  /-- Otherwise the frame size stays as it is. -/
  unanswered : .frameSize ∉ settings ∨ .frameSize ∈ draft.given ∨
    environment "FRAME_SIZE" = none → after.settings.frameSize = draft.settings.frameSize

theorem Asked.skip {environment : String → Option String} {later : List Setting}
    (rest : Asked environment later draft after)
    (silent : setting = .frameSize → .frameSize ∉ draft.given → environment "FRAME_SIZE" = none) :
    Asked environment (setting :: later) draft after where
  given := rest.given
  legible := rest.legible
  answered := fun text member open_ said => by
    rcases List.mem_cons.mp member with same | member
    · rw [silent same.symm open_] at said
      cases said
    · exact rest.answered text member open_ said
  unanswered := fun absent => rest.unanswered (absent.imp_left fun absent member =>
    absent (List.mem_cons_of_mem _ member))

/-- A setting other than the frame size takes a value of the environment. -/
theorem Asked.put {environment : String → Option String} {later : List Setting}
    {changed : Draft} (changing : Changing draft changed) (other : setting ≠ .frameSize)
    (rest : Asked environment later changed after) :
    Asked environment (setting :: later) draft after where
  given := rest.given.trans changing.given
  legible := fun legible => rest.legible (changing.legible legible)
  answered := fun text member open_ said =>
    rest.answered text ((List.mem_cons.mp member).resolve_left (Ne.symm other))
      (changing.given.symm ▸ open_) said
  unanswered := fun absent => by
    rw [← changing.frameSize]
    refine rest.unanswered (absent.imp ?_ (Or.imp_left ?_))
    · exact fun absent member => absent (List.mem_cons_of_mem _ member)
    · exact fun member => changing.given.symm ▸ member

/-- The frame size takes the sides in a text of the environment. -/
theorem Asked.putSides {environment : String → Option String} {later : List Setting}
    {changed : Draft} {text : String} (open_ : .frameSize ∉ draft.given)
    (said : environment "FRAME_SIZE" = some text)
    (read : draft.putSides [text] = .ok changed)
    (rest : Asked environment later changed after) :
    Asked environment (.frameSize :: later) draft after := by
  obtain ⟨sides, rfl, length, -⟩ := putSides_of_ok read
  rw [if_neg open_] at rest read
  have pieces : sides.length = (text.splitOn " ").length := by
    rw [length, List.flatMap_singleton]
  refine ⟨rest.given, fun legible => rest.legible (legible.putSides read), ?_, ?_⟩
  · intro other _ _ again
    obtain rfl : text = other := Option.some.inj (said.symm.trans again)
    by_cases member : .frameSize ∈ later
    · exact rest.answered text member open_ said
    · rw [rest.unanswered (.inl member)]
      exact pieces
  · rintro (absent | member | silent)
    · exact absurd List.mem_cons_self absent
    · exact absurd member open_
    · rw [said] at silent
      cases silent

theorem asked_readEnvironment {environment : String → Option String} {settings : List Setting}
    (read : draft.readEnvironment environment settings = .ok after) :
    Asked environment settings draft after := by
  induction settings generalizing draft with
  | nil =>
    cases read
    exact ⟨rfl, id, nofun, fun _ => rfl⟩
  | cons setting later inductionHypothesis =>
    unfold Draft.readEnvironment at read
    dsimp only at read
    split at read
    · rename_i unasked
      refine (inductionHypothesis read).skip ?_
      rintro rfl open_
      rw [if_neg open_] at unasked
      exact unasked
    · rename_i value asked
      obtain ⟨open_, said⟩ := environment_of_asked asked
      by_cases frame : setting = .frameSize
      · subst frame
        rw [if_pos rfl] at read
        obtain ⟨changed, first, others⟩ := exists_of_bind read
        exact .putSides open_ said first (inductionHypothesis others)
      · rw [if_neg frame] at read
        obtain ⟨changed, first, others⟩ := exists_of_bind read
        exact .put (changing_put first) frame (inductionHypothesis others)

end Draft

/-! ### The settings -/

/-- How the products of settings come out that were read from words and an environment. -/
structure Settings.Measured (words : List String) (environment : String → Option String)
    (settings : Settings) : Prop where
  sides : ∀ side ∈ settings.frameSize, side < UInt32.size
  /-- A frame with two sides has two bytes for each pixel, if that is a machine word. -/
  paired : ∀ width height later, settings.frameSize = width :: height :: later →
    settings.frameLength =
      if 2 * width * height < Word.limit then .ok (2 * width * height) else .error .mulOverflow
  /-- A frame without two sides has one, and asking for the other one is a panic. -/
  single : settings.frameSize.length < 2 →
    settings.frameSize.length = 1 ∧ settings.frameLength = .error (.outOfBounds 1 1)
  /-- It is the environment that gave the single side, because the command line gave none. -/
  lacking : settings.frameSize.length < 2 ↔ ∃ draft text,
    Draft.blank.readWords none words = .ok draft ∧ .frameSize ∉ draft.given ∧
      environment "FRAME_SIZE" = some text ∧ (text.splitOn " ").length = 1
  /-- The reserve keeps the bytes of its MiB, if that is a machine word. -/
  retained : settings.policy =
    if settings.retainMebibytes * 2 ^ 20 < Word.limit then
      .ok ⟨⟨settings.retainMebibytes * 2 ^ 20, settings.retainBlocks⟩, settings.unknownReturn⟩
    else .error .mulOverflow

/-- What was read is either in range, and its products are exact, or it panics in one of three
ways: a length or a budget beyond the machine word, or a single side of the environment. -/
theorem Settings.measured_of_read {words : List String} {environment : String → Option String}
    {settings : Settings} (read : Settings.read words environment = .ok settings) :
    Settings.Measured words environment settings := by
  obtain ⟨command, commanded, others⟩ := Draft.exists_of_bind read
  obtain ⟨draft, environed, last⟩ := Draft.exists_of_bind others
  cases last
  have framed := Draft.framed_blank.readWords commanded
  have asked := Draft.asked_readEnvironment environed
  have member : Setting.frameSize ∈ Setting.all := by decide
  have lacking : draft.settings.frameSize.length < 2 →
      .frameSize ∉ command.given ∧ ∃ text, environment "FRAME_SIZE" = some text ∧
        draft.settings.frameSize.length = (text.splitOn " ").length := by
    intro short
    have answered : ¬(.frameSize ∈ command.given ∨ environment "FRAME_SIZE" = none) :=
      fun absent => Nat.not_lt.mpr framed.pair (asked.unanswered (.inr absent) ▸ short)
    obtain ⟨open_, spoken⟩ := not_or.mp answered
    obtain ⟨text, said⟩ := Option.ne_none_iff_exists'.mp spoken
    exact ⟨open_, text, said, asked.answered text member open_ said⟩
  have one : draft.settings.frameSize.length < 2 → draft.settings.frameSize.length = 1 := by
    intro short
    obtain ⟨-, text, -, length⟩ := lacking short
    have pieces := splitOn_length_pos text
    omega
  exact
    { sides := (asked.legible framed.toLegible).sides
      paired := fun width height later sides => Settings.frameLength_eq sides
      single := fun short => by
        refine ⟨one short, ?_⟩
        obtain ⟨width, sides⟩ := List.length_eq_one_iff.mp (one short)
        exact Settings.frameLength_of_single sides
      lacking := by
        constructor
        · intro short
          obtain ⟨open_, text, said, length⟩ := lacking short
          exact ⟨command, text, commanded, open_, said, length.symm.trans (one short)⟩
        · rintro ⟨other, text, again, open_, said, length⟩
          obtain rfl : command = other := Except.ok.inj (commanded.symm.trans again)
          rw [asked.answered text member open_ said, length]
          decide
      retained := Settings.policy_eq_ite draft.settings }

/-- A command line with more MiB than a machine word has bytes for, and an environment with a
single side: both are accepted. -/
theorem Settings.measured_narrow_and_vast :
    let words := ["--pool-retain-mb", "17592186044416"]
    let environment := fun name => if name = "FRAME_SIZE" then some "8" else none
    let settings := { Settings.standard with frameSize := [8], retainMebibytes := 2 ^ 44 }
    Settings.read words environment = .ok settings ∧
      Settings.Measured words environment settings :=
  have read : Settings.read ["--pool-retain-mb", "17592186044416"]
      (fun name => if name = "FRAME_SIZE" then some "8" else none) =
      .ok { Settings.standard with frameSize := [8], retainMebibytes := 2 ^ 44 } := by
    cbv
  ⟨read, Settings.measured_of_read read⟩

/-- Two readings that are accepted and of no use: the environment gives a frame a single side, and
the operator retains more MiB than a machine word has bytes for. -/
theorem Settings.accepted_and_unusable :
    (∃ settings, Settings.read [] (fun name => if name = "FRAME_SIZE" then some "8" else none) =
        .ok settings ∧ settings.frameLength = .error (.outOfBounds 1 1)) ∧
      ∃ settings, Settings.read ["--pool-retain-mb", "17592186044416"] (fun _ => none) =
        .ok settings ∧ settings.policy = .error .mulOverflow :=
  ⟨⟨{ Settings.standard with frameSize := [8] }, by cbv, Settings.frameLength_of_single rfl⟩,
    ⟨{ Settings.standard with retainMebibytes := 17592186044416 }, by rfl,
      (Settings.policy_eq_ite _).trans (if_neg (by decide))⟩⟩

end MemoryLending
