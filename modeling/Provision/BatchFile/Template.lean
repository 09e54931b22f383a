import Provision.Configuration.Error
import Provision.Files.System

/-!
Contract: the batch file that a user starts from.

The template shows every section with a comment and leaves each setting out,
so it is a batch file of no commands.

Owns:
- the lines of the template;
- `writeTemplate`.

Does not own: the path that it is written to.
-/

namespace Provision.BatchFile

def templateLines : List String :=
  ["# elytron-ops batch file",
    "#",
    "# Commands run in the order listed. A failure stops the batch; commands",
    "# already applied stay applied.",
    "",
    "[target]",
    "# Exactly one of url / document (CLI --url / --document override both)",
    "# url = \"http://localhost:9990/management\"",
    "# document = \"standalone.json\"",
    "",
    "# HTTP headers sent with every management request",
    "# [target.headers]",
    "# X-Custom-Header = \"value\"",
    "",
    "# Bearer token for Authorization header",
    "# bearer = \"your-token-here\"",
    "",
    "[reload]",
    "# Seconds to wait for the server after a reload (default: 60)",
    "# timeout = 60",
    "",
    "# Seconds between server state reads while waiting (default: 1)",
    "# poll_interval = 1",
    "",
    "# Every command accepts `replace-existing = true` to remove and recreate",
    "# an existing resource instead of failing.",
    "",
    "# [[command]]",
    "# kind = \"filesystem-realm\"",
    "# name = \"app-realm\"",
    "# path = \"app-realm\"",
    "# relative-to = \"jboss.server.config.dir\"",
    "",
    "# [[command]]",
    "# kind = \"security-domain\"",
    "# name = \"app-domain\"",
    "# default-realm = \"app-realm\"",
    "# realms = [\x7b realm = \"app-realm\" \x7d]",
    "",
    "# [[command]]",
    "# kind = \"x500-attribute-principal-decoder\"",
    "# name = \"cn-decoder\"",
    "# oid = \"2.5.4.3\"",
    "# maximum-segments = 1",
    "# required-oids = [\"2.5.4.3\"]",
    "",
    "# [[command]]",
    "# kind = \"credential-store\"",
    "# name = \"store\"",
    "# uri = \"cr-store://test/store.jceks?create=true\"",
    "# credential-reference = \x7b clear-text = \"secret\" \x7d"]

def template : String :=
  String.join (templateLines.map fun line => line ++ "\n")

def writeTemplate (path : String) :
    Attempt FileSystem ConfigurationError Unit :=
  ExceptT.adapt (fun cause => .unwritable path cause)
    (FileSystem.perform (.write path template.toUTF8))

end Provision.BatchFile
