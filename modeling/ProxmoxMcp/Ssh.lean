/-
  File:      ProxmoxMcp/Ssh.lean
  Subject:   THE COMMAND LINES that go over SSH (`ssh.ts`, and where `services.ts` and
             `managed-auth.ts` put them together).

  A line is read by the login shell of the node. What it names there is `sh -lc` with one script,
  a program, or `pct exec` with the argument vector to run in a container.
-/
import ProxmoxMcp.Utils
import ProxmoxMcp.Lib.Base64
import ProxmoxMcp.Lib.Utf8
import ProxmoxMcp.Lib.Shell

namespace ProxmoxMcp

/-! ## 1. Interpreters -/

/-- The `interpreter` argument of the shell tools. -/
inductive Interpreter where
  | sh
  | bash
  | powershell
  | cmd
  deriving DecidableEq, Repr

/-- `input.interpreter === "bash" ? "/bin/bash" : "/bin/sh"`. -/
def Interpreter.linuxPath : Interpreter → String
  | .bash => "/bin/bash"
  | _ => "/bin/sh"

/-- `buildLinuxShellCommand(input.interpreter === "bash" ? "bash" : "sh", command)`. -/
def buildLinuxShellCommand (interpreter : Interpreter) (command : String) : String :=
  shellJoin [interpreter.linuxPath, "-lc", command]

/-! ## 2. Lines -/

/-- `lines.join("\n")`. -/
def joinLines (lines : List String) : String :=
  String.ofList (Text.joinWith ['\n'] (lines.map String.toList))

/-- `` useSudo ? `sudo -n ${command}` : command ``. -/
def sudoPrefixed (useSudo : Bool) (command : String) : String :=
  if useSudo then "sudo -n " ++ command else command

/-- `` `pct exec ${vmid} -- ${command}` ``. -/
def pctExec (vmid : Nat) (command : String) : String :=
  "pct exec " ++ toString vmid ++ " -- " ++ command

/-- `` `/bin/sh -lc ${shellQuote(script)}` ``. -/
def shellScript (script : String) : String := "/bin/sh -lc " ++ shellQuote script

/-- `buffer.toString("base64")`. -/
def base64Text (bytes : List UInt8) : String := String.ofList (Base64.encode bytes)

/-- The bytes of a string. -/
def utf8Bytes (s : String) : List UInt8 := Utf8.encode s.toList

/-- `runNodeScript`: the script goes to `bash` on its standard input. -/
def nodeScript (script : String) : String :=
  "printf %s " ++ shellQuote (base64Text (utf8Bytes script)) ++ " | base64 -d | bash"

/-- `proxmoxFileWriteBytes`: the bytes go to the file. -/
def writeScript (content : List UInt8) (filePath : String) : String :=
  "printf %s " ++ shellQuote (base64Text content) ++ " | base64 -d > " ++ shellQuote filePath

/-- `proxmoxFileReadBytes`: the file as base64. -/
def readScript (filePath : String) : String := "base64 -w0 -- " ++ shellQuote filePath

/-- `runBootstrapScript` of an account that needs its password for `sudo`. -/
def sudoBootstrapScript (password script : String) : String :=
  "printf '%s\\n' " ++ shellQuote password ++ " | sudo -S -p '' /bin/bash -lc " ++
    shellQuote (nodeScript script)

/-! ## 3. What a line starts -/

/-- A shell with a script, possibly as root, possibly in a container. -/
structure ShellCall where
  asRoot : Bool
  container : Option (List Char)
  interpreter : List Char
  script : List Char
  deriving DecidableEq, Repr

/-- `SHELL -lc SCRIPT`. -/
def shellOf (asRoot : Bool) (container : Option (List Char)) : List (List Char) → Option ShellCall
  | [interpreter, flag, script] =>
      if flag = "-lc".toList then some ⟨asRoot, container, interpreter, script⟩ else none
  | _ => none

/-- `sudo -n …`, or the command itself. -/
def sudoOf (container : Option (List Char)) (argv : List (List Char)) : Option ShellCall :=
  if ["sudo".toList, "-n".toList].isPrefixOf argv then shellOf true container (argv.drop 2)
  else shellOf false container argv

/-- `pct exec VMID -- …`, whose argument vector no shell reads again, or the command itself. -/
def containerOf (argv : List (List Char)) : Option ShellCall :=
  match argv with
  | a :: b :: vmid :: d :: rest =>
      if a = "pct".toList ∧ b = "exec".toList ∧ d = "--".toList then sudoOf (some vmid) rest
      else sudoOf none argv
  | argv => sudoOf none argv

/-- The shell that a line starts, and the script it gets. -/
def shellCall (line : String) : Option ShellCall :=
  match Shell.readPipeline line.toList with
  | some [⟨argv, none⟩] => containerOf argv
  | _ => none

end ProxmoxMcp
