import PluginHost.Plugin.Code
import PluginHost.Text.Blank
import PluginHost.Text.Quoted

/-!
The example plugin: it greets players who join, says when it comes and goes,
and answers `!!hello` on the console.
-/
namespace PluginHost.Hello

/-- The id of the plugin, which is also the target of its records. -/
def pluginId : String := "hello_world"

/-- The word it answers to. -/
def command : String := "!!hello"

/-- What the plugin says about itself. -/
def metadata : Json :=
  .object (Json.ordered
    [("id", .text pluginId), ("name", .text "Hello World"), ("version", .text "0.1.0"),
     ("description", .text "Example MCDR plugin built as a dynamic library."),
     ("author", .text "MCDR-rs Project Contributors"),
     ("dependencies", .object [("mcdreforged", .text ">=2.0.0")])])

/-- A call that says something and ends well. -/
def say (text : String) : Reaction :=
  ⟨[⟨.info, pluginId, text⟩], .ok ()⟩

/-- Braces around some text. -/
def braced (text : String) : String :=
  " \x7b " ++ text ++ " \x7d"

/-- A text that may be missing, as shown to people who look for mistakes. -/
def optional (shown : String → String) : Option String → String
  | some text => "Some(" ++ shown text ++ ")"
  | none => "None"

/-- A payload as shown to people who look for mistakes. -/
def payloadText : Payload → String
  | .none => "None"
  | .info content player => "Info" ++ braced
      ("content: " ++ Text.quoted content ++ ", player: " ++ optional Text.quoted player)
  | .player name => "Player" ++ braced ("name: " ++ Text.quoted name)
  | .serverStop code => "ServerStop" ++ braced
      ("return_code: " ++ optional id (code.map Text.ofInt))

/-- Greet the player who joined; no other payload makes sense here. -/
def greet : Payload → Reaction
  | .player name => say ("Welcome, " ++ name ++ "!")
  | other => ⟨[], .error (.failed ("unexpected payload " ++ payloadText other))⟩

/-- Answer the plugin's own word on the console. -/
def answer (payload : Payload) : Reaction :=
  match payload.content? with
  | some content =>
    if Text.trim content.toList = command.toList then say "Hello, console!" else ⟨[], .ok ()⟩
  | none => ⟨[], .ok ()⟩

def listener (name : String) (react : Payload → Reaction) : Listener :=
  ⟨pluginId, name, react⟩

/-- The plugin's callbacks. -/
def callback (name : String) : Option Listener :=
  match name with
  | "on_load" => some (listener name fun _ => say ("Hello from " ++ pluginId ++ "!"))
  | "on_unload" => some (listener name fun _ => say ("Bye from " ++ pluginId))
  | "on_player_joined" => some (listener name greet)
  | _ => none

def code : PluginCode :=
  { metadata := .ok (some metadata)
    registrations := .ok
      [.help command "Say hello" 0,
       .listener .userInfo defaultListenerPriority (listener "console" answer)]
    callback := fun name => .ok (callback name) }

end PluginHost.Hello
