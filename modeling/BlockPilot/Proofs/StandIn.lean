import BlockPilot.Run.Call
import Mathlib.Data.List.DropRight

/-!
# Recorders in the place of links

In a dry run a recorder takes the place of a link. If it is asked the same, and is told before each command whether
there is an address for it where the link would send it, it answers every command as the link does and is connected
whenever the link is. Only the address that it shows can differ: it keeps the white space around an address, and the
link does not (`recorder_stands_in`). So a controller tells of an address that its recorder does not show
(`padded_address_kept`).
-/

namespace BlockPilot

/-! ## The text of an address -/

namespace Text

theorem trimChars_trimChars (s : List Char) : trimChars (trimChars s) = trimChars s := by
  have hfront : (trimChars s).dropWhile isBlank = trimChars s := by
    obtain ⟨behind, hbehind⟩ : trimChars s <+: s.dropWhile isBlank := List.rdropWhile_prefix isBlank _
    cases htrim : trimChars s with
    | nil => rfl
    | cons c rest =>
      -- the first character is the one behind the white space in front
      have hhead := List.head?_dropWhile_not isBlank s
      rw [← hbehind, htrim] at hhead
      exact List.dropWhile_cons_of_neg (by simpa using hhead)
  rw [trimChars, hfront]
  exact List.rdropWhile_idempotent isBlank (s.dropWhile isBlank)

end Text

/-- Only its text decides whether there is an address for a command. -/
theorem isOk_commandUrl (address : String) (c : Command) (nonce : Int) :
    (commandUrl address c nonce).isOk = (Url.parseHttp (commandBase address)).isOk := by
  rw [commandUrl]
  cases Url.parseHttp (commandBase address) <;> rfl

theorem isOk_commandUrl_trim (address : String) (c : Command) (nonce : Int) :
    (commandUrl (Text.trim address) c nonce).isOk = (commandUrl address c nonce).isOk := by
  have hbase : commandBase (Text.trim address) = commandBase address := by
    rw [commandBase, Text.trim, String.toList_ofList, Text.trimChars_trimChars, commandBase]
  rw [isOk_commandUrl, isOk_commandUrl, hbase]

/-! ## What is seen of a channel -/

/-- What can be asked of a channel. -/
inductive ChannelCall where
  | setAddress (address : String)
  | dispatch (d : Dispatch)
  deriving DecidableEq

/-- What is seen of a channel behind a call: whether it sent the command if there was one, whether it is connected,
and its address. -/
structure ChannelView where
  sent : Option Bool
  connected : Bool
  address : String
  deriving DecidableEq

namespace ChannelView

/-- What is seen of a channel that has answered. -/
def ofServed (served : Option Bool × Channel) : ChannelView :=
  ⟨served.1, served.2.connected, served.2.address⟩

/-- The same with the address without the white space around it. -/
def trimmed (v : ChannelView) : ChannelView := { v with address := Text.trim v.address }

end ChannelView

/-- What is seen of a channel that keeps every address as it is and sends the commands for which there is an address
there. -/
def ChannelCall.views : String → Bool → List ChannelCall → List ChannelView
  | _, _, [] => []
  | _, connected, .setAddress address :: calls => ⟨none, connected, address⟩ :: views address connected calls
  | address, _, .dispatch d :: calls =>
    let sent := (commandUrl address d.command d.time).isOk
    ⟨some sent, sent, address⟩ :: views address sent calls

namespace Channel

/-- Whether a command is sent, and the channel behind it. -/
def dispatch (c : Channel) (d : Dispatch) : Bool × Channel :=
  if c.accepts d.command then (true, c.record d) else (false, c.refuse)

/-- What a channel answers, and the channel behind the call. -/
def serve (c : Channel) : ChannelCall → Option Bool × Channel
  | .setAddress address => (none, c.setAddress address)
  | .dispatch d => (some (c.dispatch d).1, (c.dispatch d).2)

/-- A link sends the commands for which there is an address, whatever their number. -/
theorem accepts_link (l : Link) (command : Command) (nonce : Int) :
    (link l).accepts command = (commandUrl l.address command nonce).isOk := by
  rw [isOk_commandUrl]
  simp only [accepts, refusal?, commandUrl]
  cases Url.parseHttp (commandBase l.address) <;> rfl

theorem serve_dispatch {c : Channel} {d : Dispatch} {sent : Bool} (h : c.accepts d.command = sent) :
    c.serve (.dispatch d) = (some sent, if sent then c.record d else c.refuse) := by
  subst h
  rw [serve, dispatch]
  cases c.accepts d.command <;> rfl

end Channel

/-- A controller sends a command as its channel does. -/
theorem Call.doSend_dispatch (c : Controller) (call : Call) (command : Command) :
    (doSend c call command).2.reachable = (call.reachable && (c.channel.dispatch ⟨command, c.clock⟩).1) ∧
      ((doSend c call command).1.foldl Controller.apply c).channel = (c.channel.dispatch ⟨command, c.clock⟩).2 := by
  cases haccepts : c.channel.accepts command with
  | true => simp [doSend, Channel.dispatch, haccepts, push, Controller.apply]
  | false => simp [doSend, Channel.dispatch, haccepts, Controller.apply]

/-! ## A recorder and a link -/

structure ChannelPair where
  recorder : Channel
  link : Channel

namespace ChannelPair

/-- A recorder that has recorded nothing, and a link that has sent nothing. -/
def new (settle settle' : Duration) (start : String) : ChannelPair :=
  ⟨.recorder (.new settle), .link (.new settle' start)⟩

/-- The recorder in front of a call. Before a command it is told whether there is an address for it where the
link sends it. -/
def told (p : ChannelPair) : ChannelCall → Channel
  | .setAddress _ => p.recorder
  | .dispatch d => p.recorder.setReachable (commandUrl p.link.address d.command d.time).isOk

/-- Both behind a call. -/
def step (p : ChannelPair) (call : ChannelCall) : ChannelPair :=
  ⟨((p.told call).serve call).2, (p.link.serve call).2⟩

/-- What is seen of both behind a call. -/
def view (p : ChannelPair) (call : ChannelCall) : ChannelView × ChannelView :=
  (.ofServed ((p.told call).serve call), .ofServed (p.link.serve call))

/-- What is seen of both behind each call. -/
def views : ChannelPair → List ChannelCall → List (ChannelView × ChannelView)
  | _, [] => []
  | p, call :: calls => p.view call :: (p.step call).views calls

/-- The recorder has an address, the link has it without the white space around it, and both are connected or
both are not. -/
inductive Matched (address : String) (connected : Bool) : ChannelPair → Prop
  | intro {r : Recorder} {l : Link} (recorder : r.address = address) (link : l.address = Text.trim address)
      (recorderConnected : r.connected = connected) (linkConnected : l.connected = connected) :
      Matched address connected ⟨.recorder r, .link l⟩

variable {p : ChannelPair} {address : String} {connected : Bool}

/-- An address that is set matches the addresses. -/
theorem matched_setAddress {r : Recorder} {l : Link} (hr : r.connected = connected) (hl : l.connected = connected)
    (address : String) :
    let p : ChannelPair := ⟨.recorder r, .link l⟩
    let v : ChannelView := ⟨none, connected, address⟩
    p.view (.setAddress address) = (v, v.trimmed) ∧ Matched address connected (p.step (.setAddress address)) := by
  subst hr
  refine ⟨Prod.ext rfl ?_, .intro rfl rfl rfl hl⟩
  exact congrArg (ChannelView.mk none · (Text.trim address)) hl

/-- A command finds both with an address for it, or both without one. -/
theorem Matched.dispatch (h : Matched address connected p) {d : Dispatch} {sent : Bool}
    (hsent : (commandUrl address d.command d.time).isOk = sent) :
    let v : ChannelView := ⟨some sent, sent, address⟩
    p.view (.dispatch d) = (v, v.trimmed) ∧ Matched address sent (p.step (.dispatch d)) := by
  obtain ⟨rfl, hlink, -, -⟩ := h
  rename_i r l
  have hlinked : (commandUrl l.address d.command d.time).isOk = sent := by
    rw [hlink, isOk_commandUrl_trim, hsent]
  have haccepts : (Channel.link l).accepts d.command = sent := by
    rw [Channel.accepts_link l d.command d.time, hlinked]
  have htold : (⟨.recorder r, .link l⟩ : ChannelPair).told (.dispatch d) =
      .recorder { r with reachable := sent } :=
    congrArg (Channel.recorder r).setReachable hlinked
  have hreachable : (Channel.recorder { r with reachable := sent }).accepts d.command = sent := rfl
  have haddress (connected : Bool) : (⟨some sent, connected, l.address⟩ : ChannelView) =
      ⟨some sent, connected, Text.trim r.address⟩ := by rw [hlink]
  rw [view, step, htold, Channel.serve_dispatch haccepts, Channel.serve_dispatch hreachable]
  cases sent with
  | true => exact ⟨Prod.ext rfl (haddress true), .intro rfl hlink rfl rfl⟩
  | false => exact ⟨Prod.ext rfl (haddress false), .intro rfl hlink rfl rfl⟩

theorem Matched.views (h : Matched address connected p) (calls : List ChannelCall) :
    p.views calls = (ChannelCall.views address connected calls).map fun v => (v, v.trimmed) := by
  induction calls generalizing p address connected with
  | nil => rfl
  | cons call calls ih =>
    cases call with
    | setAddress new =>
      obtain ⟨-, -, hr, hl⟩ := h
      obtain ⟨hview, hmatched⟩ := matched_setAddress hr hl new
      rw [ChannelPair.views, hview, ih hmatched, ChannelCall.views, List.map_cons]
    | dispatch d =>
      obtain ⟨hview, hmatched⟩ := h.dispatch (d := d) rfl
      rw [ChannelPair.views, hview, ih hmatched, ChannelCall.views, List.map_cons]

end ChannelPair

/-- **A recorder stands in for a link.** Let both be asked the same, an address first, and the recorder be told before
each command whether there is an address for it where the link sends it. Then behind every call both have sent the
command or both have refused it, both are connected or both are not, and the link shows the address of the recorder
without the white space around it. What is seen depends on the calls alone: a command is sent if the address that
was set last gives one for it. -/
theorem recorder_stands_in (settle settle' : Duration) (start address : String) (calls : List ChannelCall) :
    let views := (ChannelPair.new settle settle' start).views (.setAddress address :: calls)
    (views.map fun v => v.2) = (views.map fun v => { v.1 with address := Text.trim v.1.address }) ∧
      (views.map fun v => v.1) = ChannelCall.views start false (.setAddress address :: calls) := by
  intro views
  have hrecorder : (Recorder.new settle).connected = false := rfl
  have hlink : (Link.new settle' start).connected = false := rfl
  obtain ⟨hview, hmatched⟩ := ChannelPair.matched_setAddress hrecorder hlink address
  have hviews : views = (ChannelCall.views start false (.setAddress address :: calls)).map
      fun v => (v, v.trimmed) := by
    rw [ChannelCall.views, List.map_cons, ← hmatched.views, ← hview]
    rfl
  rw [hviews, List.map_map, List.map_map, List.map_map]
  exact ⟨rfl, List.map_id _⟩

/-- White space around an address stays in what a recorder shows, not in what a link shows, and not in what the
controller of the recorder tells of it. -/
theorem padded_address_kept :
    ((ChannelPair.new 50 50 "http://10.0.0.1").views [.setAddress " http://10.0.0.2 "]).map
        (fun v => (v.1.address, v.2.address)) = [(" http://10.0.0.2 ", "http://10.0.0.2")] ∧
      let c := (Controller.new (.recorder (.new 50)) (.new 1000) 50).setAddress " http://10.0.0.2 "
      c.log.events = [⟨.info, "Robot address set to http://10.0.0.2"⟩] ∧
        c.channel.address = " http://10.0.0.2 " := by
  decide +kernel

end BlockPilot
