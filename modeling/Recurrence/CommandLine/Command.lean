import Recurrence.CommandLine.Arguments
import Recurrence.CommandLine.Value

/-! The commands, and how they are read from the arguments behind their names. -/

namespace Recurrence.CommandLine

/-- The event a series is anchored on: its end, or else its length in minutes. -/
structure AnchorSpan where
  start : Moment
  finish : Option Moment
  minutes : Int

inductive Command
  | parse (text : Text)
  | recognize (phrase : List Text)
  | validate (text : Text)
  | describe (text : Text) (language : Option Language)
  | expand (text : Text) (anchor : AnchorSpan) (last : Option Date) (ceiling : Option Int)
      (cancelled modified : List Date)
  | add (title text : Text) (anchor : AnchorSpan)
  | list (id : Int) (first last : Option Date)
  | cancel (id : Int) (day : Date)
  | modify (id : Int) (day : Date) (title : Option Text) (start finish : Option Moment)
  | move (id : Int) (day : Date) (start : Moment) (finish : Option Moment)
  | restore (id : Int) (day : Date)
  | split (id : Int) (day : Date) (text title : Option Text)
  | delete (id : Int) (confirmed : Bool)

inductive CommandName
  | parse | recognize | validate | describe | expand | add | list | cancel | modify | move
  | restore | split | delete
  deriving DecidableEq

namespace CommandName

def all : List CommandName :=
  [parse, recognize, validate, describe, expand, add, list, cancel, modify, move, restore, split,
   delete]

def text : CommandName → Text
  | parse => "parse".toList
  | recognize => "recognize".toList
  | validate => "validate".toList
  | describe => "describe".toList
  | expand => "expand".toList
  | add => "add".toList
  | list => "show".toList
  | cancel => "cancel".toList
  | modify => "modify".toList
  | move => "move".toList
  | restore => "restore".toList
  | split => "split".toList
  | delete => "delete".toList

def ofText? (t : Text) : Option CommandName := all.find? fun n => n.text == t

/-- The options of a command that take a value. -/
def valueOptions : CommandName → List String
  | describe => ["--lang"]
  | expand => ["--start", "--end", "--duration", "--until", "--max", "--cancel", "--modify"]
  | add => ["--start", "--end", "--duration"]
  | list => ["--start", "--end"]
  | modify => ["--title", "--start", "--end"]
  | move => ["--start", "--end"]
  | split => ["--rule", "--title"]
  | _ => []

def flags : CommandName → List String
  | delete => ["--yes", "--help"]
  | _ => ["--help"]

def forms (n : CommandName) : List OptionForm :=
  n.valueOptions.map (fun o => { name := o.toList })
    ++ n.flags.map fun o => { name := o.toList, isFlag := true }

/-- The words a command takes, unless it takes any number. -/
def words : CommandName → List String
  | parse | validate | describe | expand => ["TEXT"]
  | recognize => ["PHRASE..."]
  | add => ["TITLE", "TEXT"]
  | list | delete => ["EVENT_ID"]
  | cancel | modify | move | restore | split => ["EVENT_ID", "DAY"]

/-- The words that are one too many, or more. -/
def unexpected (n : CommandName) (g : Given) : List Text :=
  match n with
  | recognize => []
  | _ => g.words.drop n.words.length

end CommandName

namespace Command

open DateText (Standpoint)

def event (g : Given) : Checked Int := g.word 0 "EVENT_ID".toList Value.integer

def day (here : Standpoint) (g : Given) : Checked Date := g.word 1 "DAY".toList (Value.day here.today)

def text (place : Nat) (g : Given) : Checked Text := g.word place "TEXT".toList Value.text

def start? (here : Standpoint) (g : Given) : Checked (Option Moment) :=
  g.option? "--start".toList (Value.moment here)

def finish? (here : Standpoint) (g : Given) : Checked (Option Moment) :=
  g.option? "--end".toList (Value.moment here)

def start (here : Standpoint) (g : Given) : Checked Moment :=
  g.option "--start".toList (Value.moment here)

/-- An event lasts an hour if nothing else is said. -/
def anchor (here : Standpoint) (g : Given) : Checked AnchorSpan :=
  AnchorSpan.mk <$> start here g <*> finish? here g
    <*> (fun minutes => minutes.getD 60) <$> g.option? "--duration".toList (Value.atLeast 0)

/-- The command with a name and arguments. -/
def ofGiven (here : Standpoint) (name : CommandName) (g : Given) : Checked Command :=
  match name with
  | .parse => parse <$> text 0 g
  | .recognize => recognize <$> g.allWords "PHRASE".toList
  | .validate => validate <$> text 0 g
  | .describe => describe <$> text 0 g <*> g.option? "--lang".toList Value.language
  | .expand =>
    expand <$> text 0 g <*> anchor here g <*> g.option? "--until".toList (Value.day here.today)
      <*> g.option? "--max".toList (Value.atLeast 1)
      <*> g.each "--cancel".toList (Value.day here.today)
      <*> g.each "--modify".toList (Value.day here.today)
  | .add => add <$> g.word 0 "TITLE".toList Value.text <*> text 1 g <*> anchor here g
  | .list =>
    list <$> event g <*> g.option? "--start".toList (Value.day here.today)
      <*> g.option? "--end".toList (Value.day here.today)
  | .cancel => cancel <$> event g <*> day here g
  | .modify =>
    modify <$> event g <*> day here g <*> g.option? "--title".toList Value.text
      <*> start? here g <*> finish? here g
  | .move => move <$> event g <*> day here g <*> start here g <*> finish? here g
  | .restore => restore <$> event g <*> day here g
  | .split =>
    split <$> event g <*> day here g <*> g.option? "--rule".toList Value.text
      <*> g.option? "--title".toList Value.text
  | .delete => (fun id => delete id (g.hasFlag "--yes".toList)) <$> event g

end Command

end Recurrence.CommandLine
