import Torc.Rust
import Torc.Types
import Torc.Tables
import Torc.Actor
import Torc.Store
import Torc.Client
import Torc.Offers
import Torc.Parameters
import Torc.Update
import Torc.Health
import Torc.Supervisor
import Torc.Arguments
import Torc.Api
import Torc.Framework
import Torc.Nodes
import Torc.Config
import Torc.Startup
import Torc.Groups
import Torc.Main
import Torc.Services
