import TransactionLedger.Config.Environment
import TransactionLedger.Toml.Printer

/-!
# The default settings as a document

A document that sets every field to the value that holds where nothing is set, with comments for the
people who change it.
-/

namespace TransactionLedger.Config

/-- The lines in front of the place of the database. -/
def linesBefore : List String :=
  ["# Payments System of Record Configuration",
    "#",
    "# Environment variables override these settings:",
    "# - LISTEN_HOST, LISTEN_PORT",
    "# - DB_PATH, DB_CONNECTION_LIMIT, DB_POOL_QUEUE_TIMEOUT, DB_POOL_IDLE_TIME",
    "# - DB_CONNECT_RETRY_INTERVAL_MS, DB_CONNECT_MAX_ATTEMPTS",
    "# - SOR_LOG_LEVEL, SOR_LOG_FORMAT",
    "",
    "[api]",
    "# API server host",
    "host = \"0.0.0.0\"",
    "",
    "# API server port",
    "port = 3000",
    "",
    "# Maximum request body size (bytes)",
    "max_body_size = 1048576",
    "",
    "[database]",
    "# SQLite database file"]

/-- The lines behind the place of the database. -/
def linesAfter : List String :=
  ["",
    "# Maximum number of pooled sessions",
    "pool_size = 10",
    "",
    "# How long SQLite waits on a locked database (ms)",
    "busy_timeout_ms = 5000",
    "",
    "# How long a request waits for a free session (ms)",
    "connection_timeout_ms = 5000",
    "",
    "# Idle sessions are closed after this long (ms, 0 = never)",
    "idle_timeout_ms = 60000",
    "",
    "[bootstrap]",
    "# Delay between startup connection attempts (ms)",
    "retry_interval_ms = 1000",
    "",
    "# Retries before startup gives up",
    "max_attempts = 30",
    "",
    "[logging]",
    "# Log level: trace, debug, info, warn, error",
    "level = \"info\"",
    "",
    "# Log format: pretty (for development) or json (for production)",
    "format = \"pretty\""]

/-- The document with the default settings for a place of the database. -/
def defaultDocument (databasePath : String) : String :=
  let path := "path = " ++ String.ofList (Toml.stringText databasePath.toList)
  String.join ((linesBefore ++ path :: linesAfter).map (· ++ "\n"))

end TransactionLedger.Config
