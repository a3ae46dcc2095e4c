import ArangoStarter.Go.Strconv
import ArangoStarter.Go.Utf8
import ArangoStarter.Go.Filepath
import ArangoStarter.Go.Net
import ArangoStarter.Go.Json.Encode
import ArangoStarter.Go.Json.Decode
import ArangoStarter.Go.Json.Typed
import ArangoStarter.Go.Json.RoundTrip
import ArangoStarter.Service.Types
import ArangoStarter.Service.SetupFile
import ArangoStarter.Service.LocalSlaves
import ArangoStarter.Service.SetupConfig
import ArangoStarter.Service.WaitGroup
import ArangoStarter.Service.Restarts
import ArangoStarter.Test.Util
import ArangoStarter.Test.ServerUtil
import ArangoStarter.Test.Starters
