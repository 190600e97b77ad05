import BucketVhosts.Command.Request
import BucketVhosts.Files.Writer
import BucketVhosts.Nginx
import BucketVhosts.Screen.Printing
import BucketVhosts.Settings
import BucketVhosts.Vhost.Building

/-!
# Generating vhosts

All vhosts of a document are compiled before the first one is written, and NGINX is asked only
after the last one is. A dry run shows the vhosts and writes nothing.
-/
namespace BucketVhosts
namespace Action

/-- The settings of the environment. -/
def settings (environment : Environment) : Action Settings := do
  let session ← get
  match Settings.resolve session.tree session.here environment with
  | .ok settings => pure settings
  | .error refusal => fail (.refusal refusal)

/-- The document of a file with its vhosts. -/
def build [Limits] (path : Path) (variant : Variant) (backend : String) (settings : Settings) :
    Action (Document × List Vhost) := do
  let session ← get
  ofLogged (Document.build session.tree session.here path variant backend (.int settings.padWidth))

/-- Shows vhosts, each under its file name. -/
def preview : List Vhost → Action Unit
  | [] => pure ()
  | vhost :: rest => do
    print (headingText vhost.filename)
    print (fileText vhost.text)
    preview rest

/-- Lists paths. -/
def sayPaths : List Path → Action Unit
  | [] => pure ()
  | path :: rest => do
    say ("  " ++ path.text)
    sayPaths rest

/-- Has NGINX test the configuration or reload it, as far as the options ask for it. -/
def askNginx (options : GenerateOptions) (program : String) : Action Unit :=
  if options.reloading then do
    say "[bold][3/3][/bold] Validating and reloading NGINX"
    reloadNginx program
  else if options.checking then do
    say "[bold][3/3][/bold] Validating NGINX config"
    testNginx program none
  else say "[bold][3/3][/bold] Skipping NGINX validation (use --check or --reload)"

/-- Writes vhosts and has NGINX take them up. -/
def deploy (options : GenerateOptions) (output : Path) (program : String)
    (vhosts : List Vhost) : Action Unit := do
  say ("[bold][2/3][/bold] Writing " ++ Integer.ofNat vhosts.length ++ " vhost(s) to " ++
    output.text)
  let paths ← writeSites vhosts output options.pruning
  sayPaths paths
  askNginx options program
  say ("\n[green bold]Done![/green bold] " ++ Integer.ofNat vhosts.length ++ " site(s) generated.")

/-- Generates the vhosts of a document. Options that are not given are taken from the settings; an
empty object storage address counts as none. -/
def generate [Limits] (environment : Environment) (options : GenerateOptions) : Action Unit := do
  let settings ← settings environment
  let config := options.config.getD settings.config
  let variant := options.variant.getD settings.variant
  let backend := (options.backend.filter (· ≠ "")).getD settings.backend
  say ("[bold][1/3][/bold] Compiling " ++ config.text ++ " (" ++ variant.name ++ " template)")
  let (_, vhosts) ← build config variant backend settings
  if options.dryRun then
    preview vhosts
    say ("[green]" ++ Integer.ofNat vhosts.length ++
      " vhost(s) compiled (dry run, nothing written).[/green]")
  else deploy options (options.output.getD settings.output) settings.nginx vhosts

end Action
end BucketVhosts
